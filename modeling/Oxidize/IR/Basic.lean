import Oxidize.Attribute.Decoration
import Oxidize.Literal

/-!
# The intermediate form

A type is as a source program annotates it, before anything is known about the target language.
Every expression carries the line of the source program it comes from.
-/

namespace Oxidize.IR

/-! ## Types -/

inductive Prim where
  | int
  | float
  | bool
  | str
  | bytes
  | none
  deriving Inhabited, BEq, DecidableEq

inductive Ty where
  | prim (kind : Prim)
  | generic (name : String) (args : List Ty)
  | union (variants : List Ty) (choiceName : Option String)
  | func (params : List Ty) (result : Option Ty)
  /-- A class, with the module it is taken from if the program names it. -/
  | cls (name : String) (module : Option String)
  deriving Inhabited, BEq

namespace Ty

def isNone : Ty → Bool
  | .prim .none => true
  | _ => false

def isResult : Ty → Bool
  | .generic name _ => name == "Result"
  | _ => false

end Ty

def Prim.display : Prim → String
  | .int => "int"
  | .float => "float"
  | .bool => "bool"
  | .str => "str"
  | .bytes => "bytes"
  | .none => "none"

mutual

def Ty.display : Ty → String
  | .prim kind => kind.display
  | .generic name [] => name
  | .generic name (first :: others) =>
    s!"{name}[{Text.commas (first.display :: displayAll others)}]"
  | .union variants _ => Text.join " | " (displayAll variants)
  | .func params result => s!"Callable[[{Text.commas (displayAll params)}], {displayOption result}]"
  | .cls name module =>
    match module.filter (· != "") with
    | some m => s!"{m}.{name}"
    | none => name

def displayAll : List Ty → List String
  | [] => []
  | t :: ts => t.display :: displayAll ts

def displayOption : Option Ty → String
  | none => "?"
  | some t => t.display

end

/-! ## Expressions -/

/-- Operators with two operands. -/
inductive BinOp where
  | add | sub | mul | div | floorDiv | mod | pow
  | eq | ne | lt | le | gt | ge
  | and | or
  | bitAnd | bitOr | bitXor | lshift | rshift
  | mem | notMem | is | isNot
  deriving Inhabited, BEq, DecidableEq

inductive UnOp where
  | neg | pos | not | bitNot
  deriving Inhabited, BEq, DecidableEq

abbrev Line := Option Nat

inductive Expr where
  | absent
  | literal (value : Literal) (line : Line)
  | name (name : String) (line : Line)
  | binary (op : BinOp) (left right : Expr) (line : Line)
  | unary (op : UnOp) (operand : Expr) (line : Line)
  | call (func : Expr) (args : List Expr) (kwargs : List (String × Expr)) (line : Line)
  | method (obj : Expr) (method : String) (args : List Expr) (kwargs : List (String × Expr))
      (line : Line)
  | attr (obj : Expr) (attr : String) (line : Line)
  | subscript (obj index : Expr) (line : Line)
  | slice (lower upper step : Expr) (line : Line)
  | list (elements : List Expr) (line : Line)
  | dict (entries : List (Expr × Expr)) (line : Line)
  | set (elements : List Expr) (line : Line)
  | tuple (elements : List Expr) (line : Line)
  | ifExp (condition yes no : Expr) (line : Line)
  | listComp (element : Expr) (target : String) (source : Expr) (conditions : List Expr)
      (line : Line)
  | formatted (value : Expr) (spec : String) (line : Line)
  | fstring (parts : List Expr) (line : Line)
  | await (value : Expr) (line : Line)
  | other (kind : String) (line : Line)
  deriving Inhabited, BEq

namespace Expr

def isAbsent : Expr → Bool
  | .absent => true
  | _ => false

def name? : Expr → Option String
  | .name n _ => some n
  | _ => none

def isName (e : Expr) (n : String) : Bool :=
  e.name? == some n

def isBinary : Expr → Bool
  | .binary .. => true
  | _ => false

def isCall : Expr → Bool
  | .call .. => true
  | .method .. => true
  | _ => false

end Expr

/-! ## Statements -/

/-- A statement of the intermediate form. -/
inductive Stmt where
  | assign (target : String) (value : Expr) (annot : Option Ty) (declares mutable : Bool)
      (line : Line)
  | attrAssign (obj : Expr) (attr : String) (value : Expr) (annot : Option Ty) (line : Line)
  | subscriptAssign (obj index value : Expr) (line : Line)
  /-- `a, b = value`, with a type and a mark of mutability for each target where known. -/
  | tupleUnpack (targets : List String) (value : Expr) (annots : List (Option Ty))
      (declares : Bool) (mutables : List Bool) (line : Line)
  | ret (value : Expr) (line : Line)
  | ifStmt (condition : Expr) (thenBody : List Stmt) (elifs : List (Expr × List Stmt))
      (elseBody : List Stmt) (line : Line)
  | whileLoop (condition : Expr) (body : List Stmt) (line : Line)
  | forLoop (target : String) (source : Expr) (body : List Stmt) (line : Line)
  | breakLoop (line : Line)
  | continueLoop (line : Line)
  | expr (value : Expr) (line : Line)
  | withBlock (context : Expr) (target : Option String) (body : List Stmt) (line : Line)
  /-- `try`, whose handlers hold the class of the error, the name it is bound to, and a body. -/
  | tryBlock (body : List Stmt) (handlers : List (Option String × Option String × List Stmt))
      (elseBody finallyBody : List Stmt) (line : Line)
  | raise (error : Expr) (line : Line)
  | pass (line : Line)
  | other (kind : String) (line : Line)
  deriving Inhabited, BEq

abbrev Elif := Expr × List Stmt

abbrev Handler := Option String × Option String × List Stmt

abbrev Handler.body (h : Handler) : List Stmt := h.2.2

/-! ## Functions, classes and modules -/

structure Param where
  name : String
  type : Ty
  default : Expr := .absent
  isRest : Bool := false
  isNamedRest : Bool := false
  deriving BEq

structure Function where
  name : String
  params : List Param := []
  result : Option Ty := none
  body : List Stmt := []
  isMethod : Bool := false
  isStatic : Bool := false
  isClassMethod : Bool := false
  isAsync : Bool := false
  modifiesSelf : Bool := false
  docstring : Option String := none
  line : Line := none
  /-- Attributes of the target language that the source gives in comments above the function. -/
  attributes : List String := []
  /-- Attributes that were attached to the function by other means. -/
  decoration : Option Decoration := none

structure Class where
  name : String
  bases : List String := []
  fields : List (String × Ty) := []
  methods : List Function := []
  /-- Does the class stand for its fields alone, so that its constructor takes them in order? -/
  isDataclass : Bool := false
  docstring : Option String := none
  line : Line := none
  /-- Attributes of the target language that the source gives in comments above the class. -/
  attributes : List String := []
  hasEnter : Bool := false
  /-- Does the class define what happens on leaving a `with` block? -/
  hasExit : Bool := false
  decoration : Option Decoration := none

/-- An import of a module (no names), or of names with their aliases from a module. -/
structure Import where
  module : String
  names : List (String × Option String) := []
  line : Line := none
  deriving BEq

/-- A module: what one source file defines. -/
structure Module where
  name : String
  imports : List Import := []
  functions : List Function := []
  classes : List Class := []
  statements : List Stmt := []
  docstring : Option String := none

end Oxidize.IR
