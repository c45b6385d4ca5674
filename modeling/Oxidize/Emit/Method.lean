import Oxidize.Emit.Call

/-!
# Method calls

A method call is written by the first rule that applies: the mapping of a method of an imported
type, of a module's function, of a variable's type, of the type that a chain of calls has reached;
then the combinators of results and options that are called on their type; then the methods of
texts, lists, sets and tables; and else as it is.
-/

namespace Oxidize.Emit

open IR (Expr)

structure MethodCall where
  obj : Expr
  emitObj : Emit String
  method : String
  args : List Expr
  texts : List String
  kwargs : List (String × Emit String)

namespace MethodCall

def argText (c : MethodCall) : String :=
  Text.commas c.texts

/-- A method of an imported name that needs no receiver, because its mapping is a full path. -/
def ofConstant (c : MethodCall) (m : Mapping) : Emit String := do
  let template ← templateOf m
  needImports m.imports
  handleResult (Template.fillNumbered template c.texts) m.fallible.isSet

def ofImport (c : MethodCall) (name crate : String) : Emit (Option String) := do
  let type := (← context).packageName name
  if let some code ← packageCall s!"{crate}.{type}.{c.method}" c.texts then return some code
  match ← lookup (Registry.method? type c.method (some crate)) with
  | some m => return some (← c.ofConstant m)
  | none => return none

def errorWrapper (c : MethodCall) (written : String) : Emit String := do
  match c.args with
  | _ :: .name wrapper _ :: _ =>
    match (← context).crateImports.get? wrapper with
    | some crate =>
      match ← lookup (Registry.function? s!"{crate}.{wrapper}") with
      | some m =>
        if !m.template.isSet then return written
        return Text.before (← orValueFault (m.template.textFor "split")) "("
      | none => return written
    | none => return written
  | _ => return written

/-- A combinator of results and options that is called on the type: the first argument becomes the
receiver. -/
def combinator (c : MethodCall) : Emit (Option String) := do
  match c.texts with
  | value :: others =>
    let method := c.method
    if ["unwrap", "unwrap_err", "is_ok", "is_err", "is_some", "is_none"].contains method then
      return some s!"{value}.{method}()"
    else
      match others with
      | arg :: _ =>
        if method == "unwrap_or" then return some s!"{value}.{method}({arg})"
        else if ["expect", "expect_err"].contains method then
          return some s!"{value}.{method}({Template.borrow arg})"
        else if ["unwrap_or_else", "map", "map_err", "and_then", "or_else"].contains method then
          return some s!"{value}.{method}({arg})"
        else if method == "map_error" then
          let inner := Text.trimEndWhile value (· == '?')
          return some s!"{inner}.map_err(|e| {← c.errorWrapper arg}(e))?"
        else return none
      | [] => return none
  | [] => return none

def laterCombinator (c : MethodCall) : Option String :=
  match c.texts with
  | value :: arg :: others =>
    if ["map_or", "map_or_else"].contains c.method then
      match others with
      | closure :: _ => some s!"{value}.{c.method}({arg}, {closure})"
      | [] => none
    else if ["ok_or", "ok_or_else"].contains c.method then some s!"{value}.{c.method}({arg})"
    else none
  | _ => none

def boxCall (c : MethodCall) : Option String :=
  match c.texts with
  | value :: _ =>
    if c.method == "new" then some s!"Box::new({value})"
    else if c.method == "into_inner" then some s!"*{value}"
    else none
  | [] => none

def hasCombinators (name : String) : Bool :=
  name == "Result" || name == "Option"

def ofCalendar (c : MethodCall) (m : Mapping) : Emit String := do
  let obj ← c.emitObj
  let template ← templateOf m
  needImports m.imports
  return Template.fillArgs (Template.fill template "self" obj) c.texts

def ofVariable (c : MethodCall) (type : String) : Emit (Option String) := do
  let name := Context.lastPart type
  match Library.calendarMethod? s!"{name}.{c.method}" with
  | some m => return some (← c.ofCalendar m)
  | none =>
    let ctx ← context
    let found ← lookup
      (Registry.method? (ctx.packageName name) c.method (ctx.crateOfType? name))
    match found with
    | some m => return some (← packageMethod m c.method c.emitObj c.texts)
    | none => return none

def ofPathVar (c : MethodCall) (name : String) : Emit (Option String) := do
  let isPath := (← context).isPathVar name
  match if isPath then Library.pathMethods.get? s!"Path.{c.method}" else none with
  | some m => return some (← mappedMethod m (← c.emitObj) c.texts)
  | none => return none

def ofNative (c : MethodCall) : Emit (Option String) := do
  match ← nativeMethod? c.obj c.method with
  | some m => return some (← mappedMethod m (← c.emitObj) c.texts)
  | none => return none

def ofPackageName (c : MethodCall) (name : String) : Emit (Option String) := do
  match (← context).crateImports.get? name with
  | some crate => c.ofImport name crate
  | none => return none

/-- A method of a name, by the mappings of imported names, native values and paths. -/
def ofImportedName (c : MethodCall) (name : String) : Emit (Option String) := do
  if let some code ← namedSpan name c.method c.kwargs then return some code
  if let some code ← nativeCall name (some c.method) c.texts then return some code
  if let some code ← c.ofPathVar name then return some code
  if let some code ← c.ofNative then return some code
  if let some code ← c.ofPackageName name then return some code
  if let some code ← (if hasCombinators name then c.combinator else pure none) then
    return some code
  if (← context).classNames.contains name then
    return some s!"{name}::{c.method}({c.argText})"
  return none

def ofCalendarName (c : MethodCall) (name : String) : Emit (Option String) := do
  match Library.calendar? s!"{name}.{c.method}" with
  | some m =>
    let named ← c.kwargs.mapM fun (key, value) => return (key, ← value)
    return some (← handleResult (← mappedCalendar m c.texts named) m.fallible.isSet)
  | none => return none

/-- A method of a name, by the functions of the module it names or the type of the variable. -/
def ofModuleName (c : MethodCall) (name : String) : Emit (Option String) := do
  if let some code ← libraryCall name c.method c.texts then return some code
  if let some code ← c.ofCalendarName name then return some code
  match (← context).typeEnv.get? name with
  | some type => c.ofVariable type
  | none => return none

def ofName (c : MethodCall) : Emit (Option String) := do
  match c.obj with
  | .name name _ =>
    if let some code ← c.ofImportedName name then return some code
    c.ofModuleName name
  | _ => return none

def ofChain (c : MethodCall) : Emit (Option String) := do
  match ← inferType c.obj with
  | some type =>
    if type.name == "" then return none
    else
      match ← lookup (Registry.method? type.name c.method type.crate) with
      | some m => return some (← packageMethod m c.method c.emitObj c.texts)
      | none => return none
  | none => return none

/-- A look-up of a variable of the process's environment, with or without a default. -/
def environmentCall (module : String) (c : MethodCall) : Option String :=
  if module == "os.environ" && c.method == "get" then
    match c.texts with
    | [] => none
    | [key] => some s!"std::env::var({Template.borrowed key}).ok()"
    | key :: fallback :: _ =>
      some s!"std::env::var({Template.borrowed key}).unwrap_or({fallback})"
  else none

def ofInnerModule (c : MethodCall) : Emit (Option String) := do
  match c.obj with
  | .attr (.name outer _) inner _ =>
    let module := s!"{outer}.{inner}"
    if let some code := environmentCall module c then return some code
    if let some code ← libraryCall module c.method c.texts then return some code
    match Library.calendar? s!"{module}.{c.method}" with
    | some m => return some (← handledCall m c.texts)
    | none => return none
  | _ => return none

def ofType (c : MethodCall) : Emit (Option String) := do
  match c.obj with
  | .name name _ =>
    if hasCombinators name then return c.laterCombinator
    else return if name == "Box" then c.boxCall else none
  | .attr (.name base _) _ _ =>
    if (← context).crateImports.has base then
      return some s!"{← c.emitObj}::{c.method}({c.argText})"
    else return none
  | _ => return none

def readAll (obj : String) : Emit String := do
  let target := (← context).targetType
  change fun c => { c with extraImports := c.extraImports.add "std::io::Read" }
  let (type, reader) :=
    if target == some "Vec<u8>" || target == some "bytes" then ("Vec", "read_to_end")
    else ("String", "read_to_string")
  return "\x7b let mut __buf = " ++ type ++ "::new(); " ++ obj ++ "." ++ reader
    ++ "(&mut __buf).unwrap(); __buf \x7d"

def onValue (c : MethodCall) (obj : String) : Emit (Option String) := do
  let arg := argument c.texts
  match c.method with
  | "clone" =>
    return some (if (← context).targetType == some "String" then s!"{obj}.to_string()"
      else s!"{obj}.clone()")
  | "append" => return some s!"{obj}.push({← arg 0})"
  | "extend" => return some s!"{obj}.extend({← arg 0})"
  | "pop" =>
    match c.texts with
    | [] => return some s!"{obj}.pop().unwrap()"
    | index :: _ => return some s!"{obj}.remove({index} as usize)"
  | "strip" => return some s!"{obj}.trim().to_string()"
  | "split" =>
    match c.texts with
    | [] => return some s!"{obj}.split_whitespace().collect::<Vec<_>>()"
    | sep :: _ => return some s!"{obj}.split({Template.borrow sep}).collect::<Vec<_>>()"
  | "join" =>
    match c.texts with
    | [] => return some s!"{obj}.join()"
    | items :: _ => return some s!"{items}.join(&{obj})"
  | "upper" => return some s!"{obj}.to_uppercase()"
  | "lower" => return some s!"{obj}.to_lowercase()"
  | "replace" =>
    return some s!"{obj}.replace({Template.borrow (← arg 0)}, {Template.borrow (← arg 1)})"
  | "startswith" => return some s!"{obj}.starts_with({Template.borrow (← arg 0)})"
  | "endswith" => return some s!"{obj}.ends_with({Template.borrow (← arg 0)})"
  | "isdigit" => return some s!"{obj}.chars().all(|c| c.is_ascii_digit())"
  | "isalpha" => return some s!"{obj}.chars().all(|c| c.is_alphabetic())"
  | "isalnum" => return some s!"{obj}.chars().all(|c| c.is_alphanumeric())"
  | "isspace" => return some s!"{obj}.chars().all(|c| c.is_whitespace())"
  | "encode" => return some s!"{obj}.as_bytes().to_vec()"
  | "read" => if c.texts.isEmpty then return some (← readAll obj) else return none
  | "add" =>
    match c.texts with
    | [] => return none
    | item :: _ => return some s!"{obj}.insert({item})"
  | "get" =>
    match c.texts with
    | [] => return none
    | [key] => return some s!"{obj}.get(&{key}).cloned()"
    | key :: fallback :: _ => return some s!"{obj}.get(&{key}).cloned().unwrap_or({fallback})"
  | "keys" => return some s!"{obj}.keys().cloned()"
  | "values" => return some s!"{obj}.values().cloned()"
  | "items" => return some s!"{obj}.iter()"
  | _ => return none

def reservedWords : List String :=
  ["use", "type", "impl", "trait", "mod", "pub", "fn", "let", "mut", "ref", "move", "self",
   "super", "crate", "as", "break", "continue", "else", "for", "if", "in", "loop", "match",
   "return", "while", "async", "await", "dyn", "struct", "enum", "union", "const", "static",
   "extern", "unsafe", "where"]

def asWritten (c : MethodCall) (obj : String) : Emit String := do
  let name := if reservedWords.contains c.method then "r#" ++ c.method else c.method
  let code := s!"{obj}.{name}({c.argText})"
  return if ← passesOn c.method then s!"{code}?" else code

def emit (c : MethodCall) : Emit String := do
  if let some code ← c.ofName then return code
  if let some code ← c.ofChain then return code
  if let some code ← c.ofInnerModule then return code
  if let some code ← c.ofType then return code
  let obj ← c.emitObj
  if let some code ← c.onValue obj then return code
  c.asWritten obj

end MethodCall

end Oxidize.Emit
