import Oxidize.Files.Tree
import Oxidize.Lower.Mutability
import Oxidize.Lower.Stmt
import Oxidize.Syntax.Parts

/-!
# Taking over functions, classes and modules

Every parameter needs a type hint. Comment lines directly above a definition that hold an attribute
of the target language are passed on.
-/

namespace Oxidize.Lower

open Syntax (Expr Arg Params splitDoc)
open IR (Ty Param Function Import)

def isPreamble (line : String) : Bool :=
  Text.startsWith line "#" || line == "" || Text.startsWith line "@"

def attribute? (line : String) : Option String :=
  if Text.startsWith line "# #[" then some (Text.drop line 2) else none

/-- The attributes among lines that are given from the last one upwards, in the order of the
text. -/
def attributesAbove (upwards : List String) : List String :=
  (((upwards.map Text.trim).takeWhile isPreamble).filterMap attribute?).reverse

/-- The attributes above a line; `none` if the text ends before it. -/
def attributesAt? (lines : List String) (line : Nat) : Option (List String) :=
  if lines.isEmpty then some []
  else if lines.length < line - 1 then none
  else some (attributesAbove (lines.take (line - 1)).reverse)

def attributes (lines : List String) (line : Nat) : Lower (List String) :=
  match attributesAt? lines line with
  | some attrs => return attrs
  | none => throw .textEnds

def paramType (fault : HintFault) (a : Arg) : Lower Ty := do
  match a.hint with
  | some e => return ← readHint (some a.name) e
  | none => throw (.hint fault (some a.name) a.line)

/-- The default of the parameter at place `i` of `count`: the defaults belong to the last
parameters. -/
def default? (defaults : List Expr) (count i : Nat) : Option Expr :=
  if count ≤ i + defaults.length then defaults[i + defaults.length - count]? else none

/-- Take over the ordinary parameters. The receiver of a method is none. -/
def ordinaryParams (defaults : List Expr) (count : Nat) : List (Arg × Nat) → Lower (List Param)
  | [] => return []
  | (a, i) :: rest => do
    if a.name == "self" then ordinaryParams defaults count rest
    else
      let type ← paramType .missingParam a
      let default ← operand (default? defaults count i)
      define a.name a.line
      return { name := a.name, type, default } :: (← ordinaryParams defaults count rest)

def lowerParams (p : Params) : Lower (List Param) := do
  let ordinary ← ordinaryParams p.defaults p.ordinary.length p.ordinary.zipIdx
  let rest ← p.rest.toList.mapM fun a =>
    return { name := a.name, type := ← paramType .missingRest a, isRest := true }
  let namedRest ← p.namedRest.toList.mapM fun a =>
    return { name := a.name, type := ← paramType .missingNamedRest a, isNamedRest := true }
  return ordinary ++ rest ++ namedRest

structure FunctionDef where
  isAsync : Bool
  name : String
  params : Params
  body : List Syntax.Stmt
  decorators : List Expr
  returns : Option Expr
  line : Nat

namespace FunctionDef

def ofStmt? : Syntax.Stmt → Option FunctionDef
  | .functionDef isAsync name params body decorators returns line =>
    some ⟨isAsync, name, params, body, decorators, returns, line⟩
  | _ => none

def lower (lines : List String) (d : FunctionDef) : Lower Function :=
  inScope do
    let attributes ← attributes lines d.line
    let params ← lowerParams d.params
    let name := d.name
    let result ← d.returns.mapM fun e => readHint (some s!"{name} return") e
    let (docstring, statements) := splitDoc d.body
    let body := markMutable (← block statements)
    return { name, params, result, body, isAsync := d.isAsync, docstring,
             line := some d.line, attributes }

def isStatic (d : FunctionDef) : Bool :=
  d.decorators.any fun e => e.name? == some "staticmethod"

end FunctionDef

def method (lines : List String) (s : Syntax.Stmt) (d : FunctionDef) : Lower Function := do
  let f ← d.lower lines
  return { f with
    isMethod := true
    isStatic := d.isStatic
    modifiesSelf := d.name != "__init__" && s.modifiesSelf }

structure Members where
  fields : List (String × Ty) := []
  methods : List Function := []
  constructor? : Option FunctionDef := none

def members (lines : List String) : List Syntax.Stmt → Lower Members
  | [] => return {}
  | s :: rest => do
    match s with
    | .annAssign (.name id _ _) hint _ _ =>
      let type ← readHint (some id) hint
      let others ← members lines rest
      return { others with fields := (id, type) :: others.fields }
    | _ =>
      match FunctionDef.ofStmt? s with
      | some d =>
        let f ← method lines s d
        let others ← members lines rest
        let constructor? := others.constructor? <|> (if d.name == "__init__" then some d else none)
        return { others with methods := f :: others.methods, constructor? }
      | none => members lines rest

def suggestedType : Expr → Ty
  | .constant (.str _) _ _ => .prim .str
  | .constant (.float _) _ _ => .prim .float
  | .constant (.bool _) _ _ => .prim .bool
  | .constant .none _ _ => .prim .none
  | _ => .prim .int

def constructorTypes (d : FunctionDef) : Lower (Table Ty) := do
  let hinted := d.params.ordinary.filter fun a => a.name != "self"
  let entries ← hinted.mapM fun a => do
    match a.hint with
    | some e => return [(a.name, ← readHint (some a.name) e)]
    | none => return []
  return Table.ofList entries.flatten

/-- The type of a field that a constructor assigns: that of the assigned parameter, of the
parameter with the field's name, or what the value suggests. -/
def fieldType (types : Table Ty) (field : String) (value : Expr) : Ty :=
  ((value.name?.bind types.get?) <|> types.get? field).getD (suggestedType value)

def assignedFields (types : Table Ty) : Syntax.Stmt → Lower (Table Ty)
  | .assign targets value _ =>
    return targets.filterMap fun
      | .attribute (.name owner _ _) attr _ _ =>
        if owner == "self" then some (attr, fieldType types attr value) else none
      | _ => none
  | .annAssign (.attribute (.name owner _ _) attr _ _) hint _ _ => do
    if owner == "self" then return [(attr, ← readHint (some attr) hint)] else return []
  | _ => return []

def constructorFields (d : FunctionDef) : Lower (Table Ty) := do
  let types ← constructorTypes d
  return (← d.body.mapM (assignedFields types)).flatten

def baseNames (bases : List Expr) : List String :=
  bases.filterMap fun
    | .name id _ _ => some id
    | .attribute _ attr _ _ => some attr
    | _ => none

def marksDataclass : Expr → Bool
  | .name id _ _ => id == "dataclass"
  | .call (.name id _ _) _ _ _ => id == "dataclass"
  | _ => false

def classItem (lines : List String) (name : String) (bases : List Expr)
    (body : List Syntax.Stmt) (decorators : List Expr) (line : Nat) : Lower IR.Class :=
  inScope do
    let attributes ← attributes lines line
    let isDataclass := decorators.any marksDataclass
    let (docstring, statements) := splitDoc body
    let m ← members lines statements
    let fields ← match m.constructor? with
      | some d =>
        if !isDataclass && m.fields.isEmpty then constructorFields d else pure m.fields
      | none => pure m.fields
    let hasMethod (n : String) : Bool := m.methods.any fun f => f.name == n
    return { name, bases := baseNames bases, fields, methods := m.methods, isDataclass, docstring,
             line := some line, attributes,
             hasEnter := hasMethod "__enter__", hasExit := hasMethod "__exit__" }

inductive Item where
  | imported (i : Import)
  | func (f : Function)
  | cls (c : IR.Class)
  | stmt (s : IR.Stmt)

def importedModule : Table (Option String) → String
  | [(name, _)] => name
  | _ => ""

def item (lines : List String) (s : Syntax.Stmt) : Lower (Option Item) := do
  match s with
  | .importNames names line =>
    return some (.imported { module := importedModule names, names, line := some line })
  | .importFrom module names line =>
    return some (.imported { module := module.getD "", names, line := some line })
  | .classDef name bases _ body decorators line =>
    return some (.cls (← classItem lines name bases body decorators line))
  | _ =>
    match FunctionDef.ofStmt? s with
    | some d => return some (.func (← d.lower lines))
    | none => return (← stmt s).map .stmt

def moduleName (filename : Option String) : String :=
  match filename.filter (· != "") with
  | some path => Path.stem path
  | none => "module"

/-- Take over a module; `lines` are the lines of its text. -/
def module (lines : List String) (filename : Option String) (body : List Syntax.Stmt) :
    Lower IR.Module := do
  let (docstring, statements) := splitDoc body
  let items := (← statements.mapM (item lines)).reduceOption
  return {
    name := moduleName filename
    imports := items.filterMap fun | .imported i => some i | _ => none
    functions := items.filterMap fun | .func f => some f | _ => none
    classes := items.filterMap fun | .cls c => some c | _ => none
    statements := items.filterMap fun | .stmt s => some s | _ => none
    docstring }

end Oxidize.Lower
