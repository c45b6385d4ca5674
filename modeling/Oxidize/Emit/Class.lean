import Oxidize.Emit.Stmt

/-!
# Functions and classes

A function is written with its attributes, its signature and its body. A class becomes a structure
with an implementation block.
-/

namespace Oxidize.Emit

/-! ## Functions -/

open IR (Param Function Ty Stmt)

def decorationLines (decoration : Option Decoration) : Emit (List String) := do
  match decoration with
  | some d =>
    match d.lines with
    | .ok lines =>
      let outer ← margin
      return lines.map (outer ++ ·)
    | .error fault => throw (.decoration fault)
  | none => return []

def attributeLines (attributes : List String) : Emit (List String) := do
  let outer ← margin
  return attributes.map (outer ++ ·)

def docLines (docstring : Option String) : Emit (List String) := do
  match docstring.filter (· != "") with
  | some text =>
    let first := Text.before text "\n"
    return [s!"{← margin}/// {first}"]
  | none => return []

/-- Is the type optional? Only a choice that was read as optional is recognised. -/
def isOption : Option Ty → Emit Bool
  | some (.generic name _) => return name == "Optional"
  | some (.union ..) => throw .choiceAsOption
  | _ => return false

def param (assigned : Table Nat) (adjust : Param → String → String) (p : Param) : Emit String := do
  let type := adjust p (← resolve p.type).render
  let changes := (assigned.get? p.name).getD 0 != 0 || (← context).mutVars.contains p.name
  let mark := Code.mutMark (changes && !Text.startsWith type "&")
  return s!"{mark}{p.name}: {type}"

/-- The type of the value in a signature: nothing for a function that returns nothing. -/
def resultText : Option Ty → Emit String
  | some t => do
    let type ← resolve t
    return if type.name == "()" then "" else s!" -> {type.render}"
  | none => return ""

def withOwnMutVars {α : Type} (body : Emit α) : Emit α := do
  let before := (← context).mutVars
  change fun c => { c with mutVars := [] }
  let a ← body
  change fun c => { c with mutVars := before }
  return a

def noteParams (params : List Param) : Emit Unit := do
  change fun c => { c with paramTypes := [] }
  params.forM fun p => do
    change fun c => { c with paramTypes := c.paramTypes.set p.name p.type }
    learn fun facts => facts.noteType p.name p.type

def noteOptionParams (params : List Param) : Emit Unit := do
  change fun c => { c with optionVars := [] }
  params.forM fun p => do noteOption p.name (← isOption (some p.type))

def functionBody (params : List Param) (result : Option Ty) (inResult : Bool)
    (body : List Stmt) : Emit (List Code) := do
  let before ← context
  change fun c => { c with inResult }
  let inOption ← isOption result
  let returnType ← result.mapM fun t => return (← resolve t).render
  change fun c => { c with inOption, returnType }
  noteParams params
  noteOptionParams params
  change fun c => { c with
    readVars := IR.readVars body, assignmentCounts := IR.assignmentCounts body }
  let (codes, _) ← indented (keepingTail (blockCode true [] body 0))
  change fun c => { c with
    inLastStmt := false
    inResult := before.inResult
    inOption := before.inOption
    returnType := before.returnType
    paramTypes := before.paramTypes
    typeEnv := before.typeEnv
    optionVars := before.optionVars
    readVars := before.readVars
    assignmentCounts := before.assignmentCounts
    narrowed := [] }
  return codes.flatten

def bodyLines (codes : List Code) : Emit (List String) :=
  return Code.blockLines ((← context).indent + 1) codes

/-- The attribute that runs an asynchronous main function, unless the source gives one. -/
def runtimeLines (f : Function) : Emit (List String) := do
  let given := f.attributes.any fun a => Text.contains a "::main]" || a == "#[main]"
  if f.isAsync && f.name == "main" && !given then
    let outer ← margin
    let usesWeb := (← context).crateImports.values.contains "actix-web"
    return [outer ++ if usesWeb then "#[actix_web::main]" else "#[tokio::main]"]
  else return []

def asyncMark (isAsync : Bool) : String :=
  if isAsync then "async " else ""

def function (f : Function) : Emit String := do
  let outer ← margin
  let head := (← decorationLines f.decoration) ++ (← attributeLines f.attributes)
    ++ (← runtimeLines f) ++ (← docLines f.docstring)
  withOwnMutVars do
    scanBlock f.body
    let params ← f.params.mapM (param (IR.assignmentCounts f.body) fun _ type => type)
    let result ← resultText f.result
    let signature :=
      s!"{outer}pub {asyncMark f.isAsync}fn {f.name}({Text.commas params}){result}" ++ Code.opening
    let isResult := (f.result.map Ty.isResult).getD false
    let lines ← bodyLines (← functionBody f.params f.result isResult f.body)
    return Text.join "\n" (head ++ [signature] ++ lines ++ [outer ++ Code.closing])

/-! ## Classes -/

open Code (opening closing)

def importedPath? (name : String) : Emit (Option String) := do
  let c ← context
  match (c.crateImports.get? name).filter (· != "") with
  | some crate =>
    let type := c.packageName name
    match (← lookup (Registry.type? type (some crate))).filter Value.isSet with
    | some path => return some path.display
    | none => return some s!"{Resolver.crateIdent crate}::{type}"
  | none => return none

def servicePath? : List String → Emit (Option String)
  | [] => return none
  | base :: bases => do
    match ← importedPath? base with
    | some path =>
      if path == "MicroService" || Text.endsWith path "::MicroService" then return some path
      else servicePath? bases
    | none => servicePath? bases

def serviceMethods : List String :=
  ["name", "process_request", "process_response", "register_endpoints", "handle_endpoint"]

def processingMethods : List String :=
  ["process_request", "process_response"]

def serviceParamType (method name type : String) : String :=
  if name == "ctx" && (processingMethods.contains method || method == "handle_endpoint") then
    s!"&mut {type}"
  else if name == "route_id" && method == "handle_endpoint" then "&str"
  else type

def serviceResult (method written : String) : String :=
  if processingMethods.contains method then
    " -> tunnelbana_core::Result<tunnelbana_core::InternalData>"
  else if method == "handle_endpoint" then
    " -> tunnelbana_core::Result<tunnelbana_core::Response>"
  else if method == "register_endpoints" then " -> Vec<tunnelbana_core::Route>"
  else if method == "name" then " -> &str"
  else written

/-- How a method is written: whom it is visible to, and the interface that it implements. -/
structure MethodStyle where
  visibility : String := "pub "
  interface : Option String := none
  deriving DecidableEq

namespace MethodStyle

def isService (s : MethodStyle) : Bool :=
  s.interface == some "MicroService"

end MethodStyle

def methodName (name : String) : String :=
  let name := if name == "__init__" then "new" else name
  if MethodCall.reservedWords.contains name then "r#" ++ name else name

def receiver (f : Function) : List String :=
  if f.name != "__init__" && f.isMethod && !f.isStatic then
    [if f.modifiesSelf then "&mut self" else "&self"]
  else []

def methodParams (f : Function) (style : MethodStyle) : Emit (List String) :=
  f.params.mapM (param (IR.assignmentCounts f.body) fun p type =>
    if style.isService then serviceParamType f.name p.name type else type)

def ownResult (f : Function) : Emit String :=
  if f.name == "__init__" then return " -> Self" else resultText f.result

def methodResult (f : Function) (style : MethodStyle) : Emit String := do
  let written ← ownResult f
  return if style.isService then serviceResult f.name written else written

def constructedFields : List Stmt → Emit (List String)
  | [] => return []
  | .attrAssign (.name owner _) member value _ _ :: body => do
    if owner == "self" then
      let code ← expr value
      let outer ← margin
      let line := if member == code then s!"{outer}{member}," else s!"{outer}{member}: {code},"
      return line :: (← constructedFields body)
    else constructedFields body
  | _ :: body => constructedFields body

def constructorBody (body : List Stmt) : Emit (List String) :=
  indented do
    let outer ← margin
    let fields ← indented (constructedFields body)
    return [outer ++ "Self" ++ opening] ++ fields ++ [outer ++ closing]

def methodBody (f : Function) (style : MethodStyle) : Emit (List String) := do
  if f.name == "__init__" then constructorBody f.body
  else
    let passesErrors := style.isService
      && (processingMethods.contains f.name || f.name == "handle_endpoint")
    bodyLines (← functionBody f.params f.result
      ((f.result.map Ty.isResult).getD false || passesErrors) f.body)

def method (f : Function) (style : MethodStyle := {}) : Emit String := do
  let outer ← margin
  let head := (← decorationLines f.decoration) ++ (← attributeLines f.attributes)
    ++ (← docLines f.docstring)
  withOwnMutVars do
    scanBlock (if f.name == "__init__" then [] else f.body)
    let params := receiver f ++ (← methodParams f style)
    let result ← methodResult f style
    let name := methodName f.name
    let marks := style.visibility ++ asyncMark f.isAsync
    let signature := s!"{outer}{marks}fn {name}({Text.commas params}){result}" ++ opening
    let lines ← methodBody f style
    return Text.join "\n" (head ++ [signature] ++ lines ++ [outer ++ closing])

def fieldConstructor (c : IR.Class) : Emit String := do
  let outer ← margin
  let params ← c.fields.mapM fun (name, t) => return s!"{name}: {(← resolve t).render}"
  let inner := outer ++ "    "
  let fields := c.fields.map fun (name, _) => s!"{inner}    {name},"
  return Text.join "\n" ([s!"{outer}pub fn new({Text.commas params}) -> Self" ++ opening,
    inner ++ "Self" ++ opening] ++ fields ++ [inner ++ closing, outer ++ closing])

def inClass {α : Type} (name : String) (body : Emit α) : Emit α := do
  let a ← indented do
    change fun c => { c with inImpl := true, currentClass := some name }
    body
  change fun c => { c with inImpl := false, currentClass := none }
  return a

/-- The name of a service, for a class that does not define it, with an empty line if other methods
follow. -/
def serviceName (c : IR.Class) (methods : List Function) : Emit (List String) := do
  let outer ← margin
  let value := if c.fields.any fun f => f.1 == "name" then "&self.name" else s!"\"{c.name}\""
  let lines :=
    [s!"{outer}fn name(&self) -> &str" ++ opening, s!"{outer}    {value}", outer ++ closing]
  return if methods.any fun m => m.name == "name" then []
    else lines ++ if methods.isEmpty then [] else [""]

def serviceImpl (c : IR.Class) (path : String) : Emit String := do
  let outer ← margin
  let methods := c.methods.filter fun m => serviceMethods.contains m.name
  let lines ← inClass c.name do
    let name ← serviceName c methods
    let texts ← methods.mapM fun m => method m ⟨"", some "MicroService"⟩
    return name ++ texts.intersperse ""
  return Text.join "\n" ([outer ++ "#[async_trait::async_trait]",
    s!"{outer}impl {path} for {c.name}" ++ opening] ++ lines ++ [outer ++ closing])

def structLines (c : IR.Class) : Emit (List String) := do
  let outer ← margin
  let fields ← indented do
    let inner ← margin
    c.fields.mapM fun (name, t) => return s!"{inner}pub {name}: {(← resolve t).render},"
  return [s!"{outer}pub struct {c.name}" ++ opening] ++ fields ++ [outer ++ closing, ""]

/-- The default traits of a class, unless its attributes derive others. -/
def deriveLines (c : IR.Class) : Emit (List String) := do
  let given := c.decoration.isSome || c.attributes.any fun a => Text.contains a "#[derive("
  let outer ← margin
  return if given then [] else [outer ++ "#[derive(Debug, Clone)]"]

def methodLines (methods : List Function) : Emit (List String) := do
  let texts ← (methods.filter fun m => m.name != "__enter__" && m.name != "__exit__").mapM
    fun m => method m
  return texts.flatMap fun text => [text, ""]

/-- The constructor of a class that stands for its fields and defines none, followed by an empty
line. -/
def constructorLines (c : IR.Class) : Emit (List String) := do
  if c.isDataclass && !c.fields.isEmpty && !(c.methods.any fun m => m.name == "__init__") then
    return [← fieldConstructor c, ""]
  else return []

def implLines (c : IR.Class) (isService : Bool) : Emit (List String) := do
  let outer ← margin
  let methods := c.methods.filter fun m => !(isService && serviceMethods.contains m.name)
  let standsForFields := c.isDataclass && !c.fields.isEmpty
  if methods.isEmpty && !standsForFields then return []
  else
    let lines ← inClass c.name do
      let constructor ← constructorLines c
      return constructor ++ (← methodLines methods)
    return [s!"{outer}impl {c.name}" ++ opening] ++ lines ++ [outer ++ closing]

/-- The implementation of the service interface, for a class that extends it, after an empty
line. -/
def serviceLines (c : IR.Class) (service : Option String) : Emit (List String) := do
  match service with
  | some path => return ["", ← serviceImpl c path]
  | none => return []

/-- The destructor of a class that can be the resource of a `with` block. -/
def dropLines (c : IR.Class) : Emit (List String) := do
  let outer ← margin
  if c.hasEnter && c.hasExit then
    return ["", s!"{outer}impl Drop for {c.name}" ++ opening,
      s!"{outer}    fn drop(&mut self)" ++ opening,
      s!"{outer}        // Auto-generated from __exit__",
      s!"{outer}    " ++ closing, outer ++ closing]
  else return []

def classItem (c : IR.Class) : Emit String := do
  let service ← servicePath? c.bases
  let head := (← decorationLines c.decoration) ++ (← attributeLines c.attributes)
    ++ (← docLines c.docstring) ++ (← deriveLines c)
  let struct ← structLines c
  let impl ← implLines c service.isSome
  let extension ← serviceLines c service
  return Text.join "\n" (head ++ struct ++ impl ++ extension ++ (← dropLines c))

end Oxidize.Emit
