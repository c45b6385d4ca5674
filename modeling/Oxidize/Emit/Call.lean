import Oxidize.Emit.Mapped

/-!
# Function calls

A call is written by the first rule that applies: the mapping of an imported function, the mapping
of a function of a module, a constructor, one of the built-in functions, and else as it is.
-/

namespace Oxidize.Emit

open IR (Expr)

def packageCall (key : String) (args : List String) : Emit (Option String) := do
  match ← lookup (Registry.function? key) with
  | some m => return some (← handledCall m args)
  | none => return none

def libraryCall (module func : String) (args : List String) : Emit (Option String) := do
  match ← lookup (Library.mapping? module func) with
  | some m => return some (← handledCall m args)
  | none => return none

def nativeCall (owner : String) (member : Option String) (args : List String) :
    Emit (Option String) := do
  match ← nativeMapping? owner member with
  | some m => return some (← handledCall m args)
  | none => return none

def importedCall (name : String) (args : List String) : Emit (Option String) := do
  if let some code ← nativeCall name none args then return some code
  let c ← context
  match c.crateImports.get? name with
  | some crate => packageCall s!"{crate}.{c.packageName name}" args
  | none => return none

def importedMemberCall (owner func : String) (args : List String) : Emit (Option String) := do
  let c ← context
  match c.crateImports.get? owner with
  | some crate => packageCall s!"{crate}.{c.packageName owner}.{func}" args
  | none => return none

def memberCall (owner func : String) (args : List String) (kwargs : List (String × Emit String)) :
    Emit (Option String) := do
  if let some code ← namedSpan owner func kwargs then return some code
  if let some code ← nativeCall owner (some func) args then return some code
  if let some code ← importedMemberCall owner func args then return some code
  libraryCall owner func args

def mappedFunction (func : Expr) (args : List String) (kwargs : List (String × Emit String)) :
    Emit (Option String) :=
  match func with
  | .name n _ => importedCall n args
  | .attr (.name owner _) member _ => memberCall owner member args kwargs
  | _ => return none

def importedConstructor (func : Expr) (args : List String) : Emit (Option String) := do
  match func with
  | .name n _ =>
    let c ← context
    match c.crateImports.get? n with
    | some crate =>
      if ← namesClass n then packageCall s!"{crate}.{c.packageName n}.new" args else return none
    | none => return none
  | _ => return none

def rangeCall : List String → Option String
  | [stop] => some s!"0..{stop}"
  | [start, stop] => some s!"{start}..{stop}"
  | [start, stop, step] => some s!"({start}..{stop}).step_by({step} as usize)"
  | _ => none

def lengthCall (args : List String) : Emit String := do
  let c ← context
  let expected := c.targetType.filter (· != "") <|> c.returnType
  let target := (expected.filter intTypes.contains).getD "i64"
  return s!"{← argument args 0}.len() as {target}"

/-- Print the first argument, taking a format string apart instead of nesting it. -/
def printCall (args : List Expr) (texts : List String) : String :=
  match texts with
  | [] => "println!()"
  | text :: _ =>
    let formatted := match args with
      | .fstring .. :: _ =>
        if Text.startsWith text "format!(" && Text.endsWith text ")" then
          some (Text.dropEnd (Text.drop text 8) 1)
        else none
      | _ => none
    match formatted with
    | some inner => s!"println!({inner})"
    | none =>
      let arg := Template.borrowed text
      if Text.startsWith arg "\"" && Text.endsWith arg "\"" then s!"println!({arg})"
      else "println!(\"\x7b\x7d\", " ++ arg ++ ")"

def intCall (arg : String) : String :=
  if Text.endsWith arg Template.ownedSuffix || Text.startsWith arg "\""
      || !Text.isDigits (Text.trimStartWhile arg (· == '-')) then
    s!"{arg}.parse::<i64>().unwrap()"
  else s!"{arg} as i64"

/-- The mode in which a file is opened, without quotes. -/
def openMode (arg : String) : String :=
  let bare := Text.trimWhile (Text.trimWhile arg (· == '"')) (· == '\x27')
  Text.replaceAll (Text.replaceAll (Text.replaceAll bare Template.ownedSuffix "") "\"" "") "'" ""

def openCall : List String → Option String
  | [] => none
  | [path] => some s!"std::fs::File::open({path}).unwrap()"
  | path :: mode :: _ =>
    if Text.contains (openMode mode) "w" then some s!"std::fs::File::create({path}).unwrap()"
    else some s!"std::fs::File::open({path}).unwrap()"

def builtinCall (func : String) (args : List Expr) (texts : List String) :
    Emit (Option String) := do
  match func with
  | "Some" => return some s!"Some({Text.commas texts})"
  | "Ok" => return some s!"Ok({Text.commas texts})"
  | "Err" => return some s!"Err({Text.commas texts})"
  | "range" => return rangeCall texts
  | "len" => return some (← lengthCall texts)
  | "print" => return some (printCall args texts)
  | "str" => return some s!"{← argument texts 0}.to_string()"
  | "int" => return some (intCall (← argument texts 0))
  | "float" => return some s!"{← argument texts 0} as f64"
  | "set" =>
    match texts with
    | [] => return some "HashSet::new()"
    | source :: _ => return some s!"{source}.into_iter().collect::<HashSet<_>>()"
  | "dict" => return if texts.isEmpty then some "HashMap::new()" else none
  | "list" =>
    match texts with
    | [] => return some "Vec::new()"
    | source :: _ => return some s!"{source}.into_iter().collect::<Vec<_>>()"
  | "open" => return openCall texts
  | _ => return none

/-- Is the fallible result of a call of `func` passed on where it stands? -/
def passesOn (func : String) : Emit Bool := do
  let c ← context
  return c.inResult && c.resultFunctions.contains func && !c.storesResult && !c.inDirectReturn

def pathCall (func : String) (texts : List String) : Emit (Option String) := do
  match if func == "Path" then Library.pathMethods.get? func else none with
  | some m => return some (Template.fill (← templateOf m) "args" (Text.commas texts))
  | none => return none

def writtenCall (callee : Expr) (func : String) (args : List Expr) (texts : List String) :
    Emit String := do
  if let some code ← pathCall func texts then return code
  if let some code ← importedConstructor callee texts then return code
  if (← context).classNames.contains func then return s!"{func}::new({Text.commas texts})"
  if let some code ← builtinCall func args texts then return code
  let code := s!"{func}({Text.commas texts})"
  return if ← passesOn func then s!"{code}?" else code

def call (func : Expr) (emitFunc : Emit String) (args : List Expr) (texts : List String)
    (kwargs : List (String × Emit String)) : Emit String := do
  if let some code ← mappedFunction func texts kwargs then return code
  writtenCall func (← emitFunc) args texts

end Oxidize.Emit
