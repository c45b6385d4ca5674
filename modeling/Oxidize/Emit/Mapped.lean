import Oxidize.Emit.Inference
import Oxidize.Emit.Template

/-!
# Writing mapped calls

A mapped call is written by its template. A name may stand for a constant of the native library, a
field for a variant of an imported type or for an attribute of a module, and an item may be a field
of a tuple.
-/

namespace Oxidize

def Facts.nativeMethod? (facts : Facts) (obj : IR.Expr) (method : String) : Option Mapping :=
  match obj.name?.bind facts.typeEnv.get? with
  | some type =>
    if type != "" && facts.nativeTypes.contains type then Library.nativeMethod? type method
    else none
  | none => none

namespace Emit

/-- Is the fallible result of the written call handled already? -/
def isHandled (code : String) : Bool :=
  let code := Text.trimEnd code
  Text.endsWith code ".unwrap()" || Text.endsWith code "?"

/-- Handle the result of a written call, if it is fallible and not handled yet. -/
def handleResult (code : String) (fallible : Bool) : Emit String := do
  if !fallible || isHandled code then return code
  else
    let c ← context
    if c.inResult then
      if c.inDirectReturn || c.storesResult then return code else return s!"{code}?"
    else return s!"{code}.unwrap()"

def passArg (arg type : String) : Emit String := do
  let passed := Argument.pass arg type
  match passed.mutVar with
  | some v => addMutVar v
  | none => pure ()
  return passed.code

/-- The arguments as they are passed to parameters of the given types; further ones as they are. -/
def passTyped : List Value → List String → Emit (List String)
  | type :: types, arg :: args => do
    let first ← passArg arg (← orValueFault (type.textFor "startswith"))
    let others ← passTyped types args
    return first :: others
  | _, args => return args

def typesByPosition : Value → Except ValueFault (List Value)
  | .table _ => .error (.missingPosition 0)
  | other =>
    match other.parts? with
    | some types => .ok types
    | none => .error (.noLength other.form)

def passArgs (m : Mapping) (args : List String) : Emit (List String) := do
  if m.paramTypes.isSet && !args.isEmpty then
    passTyped (← orValueFault (typesByPosition m.paramTypes)) args
  else return args

def templateOf (m : Mapping) : Emit String :=
  orValueFault (m.template.textFor "replace")

def mappedCall (m : Mapping) (args : List String) : Emit String := do
  let template ← orValueFault m.template.searched
  let passed ← passArgs m args
  needImports m.imports
  return Template.fillCall (Template.crateIdents template) passed

def handledCall (m : Mapping) (args : List String) : Emit String := do
  handleResult (← mappedCall m args) m.fallible.isSet

def mappedMethod (m : Mapping) (obj : String) (args : List String) : Emit String := do
  let template ← templateOf m
  needImports m.imports
  let code := Template.fill (Template.fill template "self" obj) "args" (Text.commas args)
  handleResult code m.fallible.isSet

def mappedCalendar (m : Mapping) (args : List String) (named : Table String) : Emit String := do
  let template ← templateOf m
  needImports m.imports
  return Calendar.construct m template args named

def typedMethods : List String :=
  ["get_one", "try_get_one", "get_many", "try_get_many"]

/-- Write the type of the value into a call that needs it: the type of the assigned variable, or
text. What is taken out of a collection for an optional variable is cloned. -/
def injectType (code method : String) : Emit String := do
  if !typedMethods.contains method then return code
  else
    let target := ((← context).targetType.filter (· != "")).getD "String"
    let isOption := Text.startsWith target "Option<" && Text.endsWith target ">"
    let inner := if isOption then Text.dropEnd (Text.drop target 7) 1 else target
    let typed := Text.replaceAll code s!".{method}(" s!".{method}::<{inner}>("
    let takesOne := method == "get_one" || method == "try_get_one"
    let result :=
      if isOption && takesOne && !Text.contains typed ".cloned()" then typed ++ ".cloned()"
      else typed
    note "turbofish_injection" "turbofish_injections"
      [("method", .str method), ("target_type", .str target), ("inner_type", .str inner),
       ("needs_cloned", .bool isOption)]
    return result

def convertedTypes : List String :=
  ["i8", "i16", "i32", "i64", "u8", "u16", "u32", "u64", "isize", "usize"]

/-- Convert an integer to the type of the assigned variable, if that is another integer type. -/
def convertInt (code : String) (returned : Value) : Emit String := do
  match (← context).targetType.filter fun target => returned.isSet && target != "" with
  | some target =>
    let source ← orValueFault returned.keyText
    if convertedTypes.contains source && convertedTypes.contains target && source != target then
      note "int_conversion" "int_conversions"
        [("returns_type", returned), ("target_type", .str target), ("added_into", .bool true)]
      return s!"{code}.into()"
    else return code
  | none => return code

def packageMethod (m : Mapping) (method : String) (emitObj : Emit String) (args : List String) :
    Emit String := do
  let obj ← emitObj
  let passed ← passArgs m args
  let typed ← injectType (Template.fill (← templateOf m) "self" obj) method
  needImports m.imports
  let handled ← handleResult (Template.fillArgs typed passed) m.fallible.isSet
  convertInt handled m.returns

/-- The mapping of a name imported from the native library, or of one of its members. -/
def nativeMapping? (owner : String) (member : Option String) : Emit (Option Mapping) := do
  let c ← context
  match (c.nativeImports.get? owner).filter (· != "") with
  | some module =>
    let name := c.packageName owner
    let func := match member.filter (· != "") with
      | some m => s!"{name}.{m}"
      | none => name
    lookup (Library.mapping? module func)
  | none => return none

def nativeMethod? (obj : IR.Expr) (method : String) : Emit (Option Mapping) :=
  return (← context).toFacts.nativeMethod? obj method

def namedSpan (owner func : String) (kwargs : List (String × Emit String)) :
    Emit (Option String) := do
  if owner == "datetime" && func == "timedelta" then
    let terms ← (kwargs.filter fun (unit, _) => Calendar.spanUnits.contains unit).mapM
      fun (unit, value) => return Calendar.spanOf unit (← value)
    return if terms.isEmpty then none else some (Text.join " + " terms)
  else return none

/-! ## Names, fields and items -/

open IR (Expr)

/-- A name: taken out of its option if a guard has shown that there is something in it, replaced by
its mapping if it is a constant of the native library. -/
def nameValue (n : String) : Emit String := do
  if (← context).narrowed.contains n then return s!"{n}.unwrap()"
  else
    match ← nativeMapping? n none with
    | some m => mappedCall m []
    | none => return n

def crateMember (crate name member : String) : Emit String := do
  match ← lookup (Registry.variant? name member (some crate)) with
  | some path => if path.isSet then return path.display else fallback
  | none => fallback
where
  fallback : Emit String := do
    let package ← lookup (Registry.package? crate)
    let spelled := (package.map Package.crate).getD (.str crate)
    let ident := Text.replaceAll (← orValueFault (spelled.textFor "replace")) "-" "_"
    return s!"{ident}::{name}::{member}"

def calendarField (n member : String) (emitObj : Emit String) : Emit (Option String) := do
  let found := ((← context).typeEnv.get? n).bind fun type =>
    Library.calendarMethod? s!"{Context.lastPart type}.{member}"
  match found with
  | some m =>
    let obj ← emitObj
    let template ← templateOf m
    needImports m.imports
    return some (Template.fill template "self" obj)
  | none => return none

def memberOfName (n member : String) (emitObj : Emit String) : Emit (Option String) := do
  if let some m ← nativeMapping? n (some member) then return some (← mappedCall m [])
  if let some m ← lookup (Library.mapping? n member) then
    needImports m.imports
    return some m.template.display
  if let some code ← calendarField n member emitObj then return some code
  match (← context).crateImports.get? n with
  | some crate => return some (← crateMember crate n member)
  | none => return none

/-- The fields of the data of a request handler that are shared and have to be cloned. -/
def sharedFields : List String :=
  ["requester", "subject_id"]

def mappedField (obj : Expr) (emitObj : Emit String) (member : String) : Emit (Option String) :=
  match obj with
  | .name n _ => memberOfName n member emitObj
  | _ => return none

def field (obj : Expr) (emitObj : Emit String) (member : String) : Emit String := do
  if let some code ← mappedField obj emitObj member then return code
  let type ← inferType obj
  let code := s!"{← emitObj}.{member}"
  let isShared := (type.map KnownType.name) == some "InternalData" && sharedFields.contains member
  return if isShared then s!"{code}.clone()" else code

/-- A bound of a slice, converted if it is a variable or a literal that is no number. -/
def sliceBound (e : Expr) (code : String) : String :=
  let isSimple := match e with
    | .literal .. | .name .. => true
    | _ => false
  if code != "" && isSimple && !Text.isDigits code then s!"{code} as usize" else code

def slice (obj : String) (lower upper : Expr) (lowerCode upperCode : String) : String :=
  s!"{obj}[{sliceBound lower lowerCode}..{sliceBound upper upperCode}].to_string()"

def isTuple (c : Context) : Expr → Bool
  | .tuple .. => true
  | .name n _ =>
    match c.typeEnv.get? n with
    | some type => type == "tuple" || Text.startsWith type "tuple[" || Text.startsWith type "("
    | none => false
  | .method _ method _ _ _ => method == "splitext"
  | .call (.attr _ func _) _ _ _ => func == "splitext"
  | .call (.name func _) _ _ _ => func == "splitext"
  | _ => false

def tupleField? : Expr → Option String
  | .literal (.int i) _ => some (Literal.int i).display
  | .literal (.bool b) _ => some (Literal.bool b).display
  | _ => none

def item (c : Context) (obj index : Expr) (objCode indexCode : String) : String :=
  let isField := Text.startsWith objCode "(" || isTuple c obj
  match (tupleField? index).filter fun _ => isField with
  | some number => s!"{objCode}.{number}"
  | none =>
    let container := obj.name?.bind c.typeEnv.get?
    let isVar := index.name?.isSome
    if container == some "dict" || container == some "Dict" then
      let key := match Text.dropSuffix? indexCode Template.ownedSuffix with
        | some text => text
        | none => if isVar then s!"&{indexCode}" else indexCode
      s!"{objCode}[{key}]"
    else if isVar then s!"{objCode}[{indexCode} as usize]"
    else s!"{objCode}[{indexCode}]"

end Emit

end Oxidize
