import Oxidize.Interface.Basic
import Oxidize.Stub.Hint
import Oxidize.Stub.Known.ActixWeb
import Oxidize.Stub.Known.SmallCrates
import Oxidize.Stub.Known.Tokio
import Oxidize.Stub.Name

/-!
# The mapping file of a crate

The file says how each call, type and variant that the stubs declare is written in Rust. It is a
sequence of entries, in the syntax of TOML, with remarks between them.
-/

namespace Oxidize.Stub

/-! ## Signatures -/

open Interface (Param Callable)

def paramTexts (params : List Param) : List String :=
  (List.zip params (paramNames (params.map (·.name)))).map fun (p, name) =>
    let hint := hint p.type
    s!"{name}: {hint}"

/-- The hint of a result, `None` when no type is written. -/
def resultHint (c : Callable) : String :=
  match c.returns? with
  | some type => hint type
  | none => "None"

def declaration (name : String) (params : List String) (result : String) : String :=
  "def " ++ safeName name ++ "(" ++ Text.commas params ++ ") -> " ++ result ++ ": ..."

def methodDeclaration (m : Callable) : String :=
  let receiver := if m.hasReceiver then ["self"] else []
  declaration m.name (receiver ++ paramTexts m.params) (resultHint m)

/-- The declaration of a method that is called on its type, whose name is quoted as the result
because the class is not complete there. -/
def staticDeclaration (type : String) (m : Callable) : String :=
  let result := resultHint m
  let result :=
    if m.returns?.isSome && (result == "Self" || result == type) then s!"\"{type}\"" else result
  declaration m.name (paramTexts m.params) result

def functionDeclaration (f : Callable) : String :=
  let text := declaration f.name (paramTexts f.params) (resultHint f)
  if f.isAsync then "async " ++ text else text

/-- The argument of the first bound `name<…>` that stands at the beginning of the text. -/
def boundArgument? (name : String) (cs : List Char) : Option (List Char) :=
  let start := name.toList ++ ['<']
  if start.isPrefixOf cs then
    let inner := (cs.drop start.length).takeWhile (· != '>')
    let rest := cs.drop (start.length + inner.length)
    if inner.isEmpty || rest.isEmpty then none else some inner
  else none

/-- What the first `AsRef` or `Borrow` bound of a text names. -/
def borrowedBound? : List Char → Option (List Char)
  | [] => none
  | c :: cs =>
    match boundArgument? "AsRef" (c :: cs), boundArgument? "Borrow" (c :: cs) with
    | some inner, _ => some inner
    | none, some inner => some inner
    | none, none => borrowedBound? cs

def passedType (p : Param) : String :=
  match p.form? with
  | some form =>
    if !form.isReference && form.isImplTrait && form.expectsBorrow then
      match borrowedBound? (form.traitBound?.getD "").toList with
      | some inner =>
        let inner := String.ofList inner
        s!"&{inner}"
      | none => p.type
    else p.type
  | none => p.type

/-! ## Entries -/

inductive Quoting where
  | plain
  | escaped
  | literal

def Quoting.write (quoting : Quoting) (text : String) : String :=
  match quoting with
  | .plain => s!"\"{text}\""
  | .escaped =>
    let text := Text.replaceAll text "\"" "\\\""
    s!"\"{text}\""
  | .literal => if Text.contains text "\"" then s!"'{text}'" else s!"\"{text}\""

inductive CallKind where
  | functions
  | methods

inductive PathKind where
  | types
  | variants

/-- A part of a mapping file. -/
inductive Entry where
  | remark (lines : List String)
  | call (kind : CallKind) (remark? : Option String) (quoting : Quoting) (mapping : CallMapping)
  | path (kind : PathKind) (remark? : Option String) (python rust : String)

namespace Entry

def texts (items : List String) : String :=
  let items := Text.commas (items.map Quoting.plain.write)
  s!"[{items}]"

def flag (on : Bool) : String :=
  if on then "true" else "false"

def opening (kind : String) : String :=
  s!"[[mappings.{kind}]]"

def remarkLines (remark? : Option String) : List String :=
  remark?.toList.map fun text => s!"# {text}"

def lineIf (condition : Bool) (line : String) : List String :=
  if condition then [line] else []

def callLines (quoting : Quoting) (m : CallMapping) : List String :=
  let python := Quoting.plain.write m.python
  let code := quoting.write m.code
  let imports := texts m.imports
  let fallible := flag m.fallible
  let returns := Quoting.plain.write (m.returns?.getD "")
  let paramTypes := texts m.paramTypes
  [s!"python = {python}", s!"rust_code = {code}", s!"rust_imports = {imports}",
    s!"needs_result = {fallible}"] ++
    lineIf m.isAsync "is_async = true" ++
    lineIf m.returnsSelf "returns_self = true" ++
    lineIf m.returns?.isSome s!"returns = {returns}" ++
    lineIf (!m.paramTypes.isEmpty) s!"param_types = {paramTypes}"

def lines : Entry → List String
  | .remark lines => lines
  | .call kind remark? quoting mapping =>
    let kind := match kind with
      | .functions => "functions"
      | .methods => "methods"
    remarkLines remark? ++ [opening kind] ++ callLines quoting mapping ++ [""]
  | .path kind remark? python rust =>
    let kind := match kind with
      | .types => "types"
      | .variants => "enum_variants"
    let python := Quoting.plain.write python
    let rust := Quoting.plain.write rust
    remarkLines remark? ++ [opening kind, s!"python = {python}", s!"rust = {rust}", ""]

def title (text : String) : Entry :=
  let rule := "# ====================================================="
  .remark [rule, s!"# {text}", rule, ""]

def function (mapping : CallMapping) : Entry :=
  .call .functions none .plain mapping

end Entry

/-! ## The file -/

open Interface (Crate Callable TypeDecl Alias VariantAlias)

def knownCrates : Table KnownCrate :=
  [("actix-web", Known.ActixWeb.crate),
   ("base64", Known.Base64.crate),
   ("chrono", Known.Chrono.crate),
   ("clap_builder", Known.ClapBuilder.crate),
   ("josekit", Known.Josekit.crate),
   ("log", Known.LogMacros.crate),
   ("redis", Known.Redis.crate),
   ("reqwest", Known.Reqwest.crate),
   ("serde_json", Known.SerdeJson.crate),
   ("sha2", Known.Sha2.crate),
   ("tokio", Known.Tokio.crate)]

def known (crate : String) : KnownCrate :=
  (knownCrates.get? crate).getD {}

def isStandardResult (target : String) : Bool :=
  let target := Text.lowerAscii target
  Text.contains target "core::result" || Text.contains target "std::result"

def resultAliases (c : Crate) : List Alias :=
  c.aliases.filter fun a => isStandardResult a.target

structure Subject where
  crate : Crate
  name : String
  version : String

namespace Subject

def ident (s : Subject) : String :=
  crateIdent s.name

def known (s : Subject) : KnownCrate :=
  Stub.known s.name

def replaces (s : Subject) (type : String) : Bool :=
  s.known.types.any (·.name == type)

end Subject

/-! ## The head of the file -/

def packageLines (name ident version : String) : List String :=
  let module := moduleName name
  ["[package]", s!"name = \"{name}\"", s!"rust_crate = \"{ident}\"",
    s!"rust_version = \"{version}\"", s!"python_module = \"{module}\"", ""]

def dependencyLines (name version : String) : List String :=
  ["[cargo.dependencies]", s!"{name} = \"{version}\"", ""]

def featureLines (c : Crate) : List String :=
  if c.features.isEmpty then []
  else
    let available := Entry.texts c.features
    let default := Entry.texts c.defaultFeatures
    ["[cargo.features]", s!"available = {available}", s!"default = {default}", ""]

/-! ## Functions -/

def placeholders (c : Callable) : String :=
  Text.commas ((List.range c.params.length).map fun i => "\x7barg" ++ toString i ++ "\x7d")

def isFallible (c : Callable) : Bool :=
  (c.returns?.map Stub.isResult).getD false

def declaredTypes (c : Callable) : List String :=
  c.params.map (·.type)

def resultEntries (s : Subject) : List Entry :=
  (resultAliases s.crate).flatMap fun a =>
    ["Ok", "Err"].map fun side =>
      .call .functions (some s!"Result type alias - {side} constructor") .plain
        { python := s!"{s.name}.{a.name}.{side}", code := side ++ "({arg0})" }

def knownTypeEntries (s : Subject) : List Entry :=
  s.known.types.flatMap fun t =>
    t.calls.map (.call .functions (some s!"{t.name} constructor from std") .plain ·)

def knownFunctionEntries (s : Subject) : List Entry :=
  s.known.functions.map fun f =>
    .call .functions (some s!"{f.name} standalone function") .plain f.call

def macroEntries (s : Subject) : List Entry :=
  if s.known.macros.isEmpty then []
  else .remark ["# Macro mappings (signatures from hardcoded stubs)"] ::
    s.known.macros.map fun m => .call .functions none .escaped m.call

/-- The exported macros of which nothing is known, sorted. -/
def unknownMacros (s : Subject) : List String :=
  let exported := (s.crate.macros.filter (·.isExported)).map (·.name)
  NameSet.sorted ((NameSet.ofList exported).filter fun name =>
    !s.known.macros.any (·.name == name))

/-- A remark on the macros of which nothing is known. -/
def unknownMacroEntries (s : Subject) : Noting (List Entry) := do
  let names := unknownMacros s
  if names.isEmpty then return []
  modify (·.decide "uncovered_macros"
    [("crate", .str s.name), ("detected", .list (names.map .str)),
      ("message", .str "These exported macros were detected but have no hardcoded stubs")])
  let list := Text.commas names
  let count := names.length
  return [.remark [s!"# NOTE: Detected {count} macros without stubs: {list}",
    "# To use these macros, add signatures to CRATE_MACRO_STUBS in generator.py", ""]]

def extraTypeEntries (s : Subject) : List Entry :=
  s.known.extraTypes.flatMap fun t =>
    t.calls.map (.call .functions (some "Hardcoded type function") .plain ·)

/-- The types of the parameters of a function, noted when they are not the declared ones. -/
def passedTypes (crate : String) (function : String) (params : List Interface.Param) :
    Noting (List String) := do
  match (known crate).paramTypes.get? function with
  | some types =>
    modify (·.decide "param_types_override"
      [("crate", .str crate), ("function", .str function), ("param_types", .list (types.map .str))])
    return types
  | none => return params.map passedType

def functionEntry (s : Subject) (f : Callable) : Noting Entry := do
  let name := safeName f.name
  let paramTypes ← passedTypes s.name name f.params
  let (code, imports) ← match s.known.functionPaths.get? f.name with
    | some (code, imports) =>
      modify fun log => (log.decide "function_path_override"
        [("crate", .str s.name), ("function", .str f.name), ("rust_code", .str code)]).count
          "function_path_overrides"
      pure (code, imports)
    | none =>
      let path := itemPath s.ident (← notedPath f.modulePath f.name) f.name
      let arguments := placeholders f
      pure (s!"{path}({arguments})", [path])
  return .function { python := s!"{s.name}.{name}", code, imports, fallible := isFallible f,
                     isAsync := f.isAsync, paramTypes }

/-! ## Types and their methods -/

def ownTypes (s : Subject) (types : List TypeDecl) : List TypeDecl :=
  types.filter fun t => !s.replaces t.name

def typePath (s : Subject) (t : TypeDecl) : Noting String := do
  match s.known.typePaths.get? t.name with
  | some path => return path
  | none => return itemPath s.ident (← notedPath t.modulePath t.name) t.name

def staticEntry (s : Subject) (t : TypeDecl) (path : String) (m : Callable) : Entry :=
  let name := safeName m.name
  let arguments := placeholders m
  let mapping : CallMapping :=
    { python := s!"{s.name}.{t.name}.{name}", code := s!"{path}::{m.name}({arguments})",
      imports := [path], fallible := isFallible m, paramTypes := declaredTypes m }
  if t.name == "Error" && m.name == "msg" && s.name == "anyhow" then
    .call .functions (some "Error.msg - use anyhow! macro for string messages") .plain
      { mapping with code := s!"{s.ident}::anyhow!({arguments})", imports := [] }
  else .function mapping

def staticEntries (s : Subject) (t : TypeDecl) : Noting (List Entry) := do
  let path ← typePath s t
  return ((s.crate.methodsOf t.name).filter (·.isStatic)).map (staticEntry s t path)

def methodEntry (s : Subject) (t : TypeDecl) (m : Callable) : Entry :=
  let name := safeName m.name
  let arguments := placeholders m
  let givesSelf := (m.returns?.map fun type =>
    Text.contains type "Self" || Text.contains type t.name).getD false
  .call .methods none .plain
    { python := s!"{t.name}.{name}"
      code := "{self}." ++ s!"{m.name}({arguments})"
      imports := (s.known.methodTraits.get? m.name).toList
      fallible := isFallible m
      returnsSelf := givesSelf
      returns? := (m.returns?.bind (returnedType? · t.name)).filter (· != "")
      paramTypes := declaredTypes m }

def methodEntries (s : Subject) (t : TypeDecl) : List Entry :=
  ((s.crate.methodsOf t.name).filter (!·.isStatic)).map (methodEntry s t)

def knownMethodEntries (s : Subject) : List Entry :=
  s.known.methods.map fun m => .call .methods (some s!"{m.python} hardcoded method") .escaped m

def constructorEntries (s : Subject) : List Entry :=
  s.known.constructors.map fun m =>
    .call .functions (some s!"{m.python} static constructor") .literal m

/-! ## Constants -/

def constantEntries (s : Subject) : List Entry :=
  if s.known.constants.isEmpty then []
  else Entry.title "Module-level Constant Method Mappings" ::
    s.known.constants.flatMap fun c => c.methods.map fun m =>
      .call .methods (some s!"{m.python} hardcoded method") .plain m

def aliasPath (s : Subject) (a : VariantAlias) : String :=
  itemPath s.ident a.modulePath a.name

def aliasEntry (s : Subject) (a : VariantAlias) : Entry :=
  let name := safeName a.name
  .call .functions (some s!"{name} constant") .plain
    { python := s!"{s.name}.{name}", code := aliasPath s a, imports := [aliasPath s a] }

def aliasMethodEntries (s : Subject) (a : VariantAlias) : List Entry :=
  let constant := safeName a.name
  let path := aliasPath s a
  (s.crate.methodsOf a.enumType).map fun m =>
    let name := safeName m.name
    let arguments := placeholders m
    .function { python := s!"{s.name}.{constant}.{name}", code := s!"{path}.{m.name}({arguments})",
                imports := [path], fallible := isFallible m, paramTypes := declaredTypes m }

def aliasEntries (s : Subject) : List Entry :=
  let aliases := s.crate.variantAliases
  if aliases.isEmpty then []
  else
    [Entry.title "Enum Variant Alias Constants"] ++ aliases.map (aliasEntry s) ++
      [Entry.title "Enum Variant Alias Method Mappings"] ++ aliases.flatMap (aliasMethodEntries s)

/-! ## Paths -/

def knownPathEntries (s : Subject) : List Entry :=
  ((resultAliases s.crate).map fun a =>
    .path .types (some "Result type alias") a.name s!"{s.ident}::{a.name}") ++
  (s.known.types.map fun t => .path .types (some s!"{t.name} from std") t.name t.rust) ++
  (s.known.extraTypes.map fun t => .path .types none t.name t.rust)

def typeEntry (s : Subject) (t : TypeDecl) : Noting Entry := do
  return .path .types none t.name (← typePath s t)

def variantEntries (s : Subject) (t : TypeDecl) : Noting (List Entry) := do
  let path := itemPath s.ident (← notedPath t.modulePath t.name) t.name
  return t.variants.map fun variant =>
    let name := safeName variant
    .path .variants none s!"{t.name}.{name}" s!"{path}::{variant}"

/-! ## The file -/

def entries (s : Subject) : Noting (List Entry) := do
  let unknown ← unknownMacroEntries s
  let functions ← s.crate.publicFunctions.mapM (functionEntry s)
  let structs := ownTypes s s.crate.structs
  let enums := ownTypes s s.crate.enums
  let statics ← structs.mapM (staticEntries s)
  let types ← (structs ++ enums).mapM (typeEntry s)
  let variants ← enums.mapM (variantEntries s)
  return resultEntries s ++ knownTypeEntries s ++ knownFunctionEntries s ++ macroEntries s ++
    unknown ++ extraTypeEntries s ++ functions ++ statics.flatten ++
    structs.flatMap (methodEntries s) ++ knownMethodEntries s ++ constructorEntries s ++
    constantEntries s ++ aliasEntries s ++ knownPathEntries s ++ types ++
    [.remark ["# Enum variant access mappings"]] ++ variants.flatten

def mappingFile (s : Subject) : Noting String := do
  let entries ← entries s
  return Text.join "\n" (packageLines s.name s.ident s.version ++
    dependencyLines s.name s.version ++ featureLines s.crate ++ entries.flatMap Entry.lines)

end Oxidize.Stub
