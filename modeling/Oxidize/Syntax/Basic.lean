import Oxidize.Literal

/-!
# The source language

The syntax tree of a source program, as its own parser produces it. Statements that have no
counterpart in the target language are kept with their kind and their parts.
-/

namespace Oxidize.Syntax

/-! ## Expressions -/

/-- Operators with two operands. -/
inductive BinOp where
  | add | sub | mult | matMult | div | mod | pow | lShift | rShift | bitOr | bitXor | bitAnd
  | floorDiv
  deriving DecidableEq

/-- Operators that join conditions. -/
inductive BoolOp where
  | and | or
  deriving DecidableEq

inductive UnaryOp where
  | invert | not | uAdd | uSub
  deriving DecidableEq

inductive CmpOp where
  | eq | notEq | lt | ltE | gt | gtE | is | isNot | mem | notMem
  deriving DecidableEq

/-- How an expression is used: read, assigned or deleted. -/
inductive Use where
  | load | store | del
  deriving DecidableEq

def BinOp.name : BinOp → String
  | .add => "Add"
  | .sub => "Sub"
  | .mult => "Mult"
  | .matMult => "MatMult"
  | .div => "Div"
  | .mod => "Mod"
  | .pow => "Pow"
  | .lShift => "LShift"
  | .rShift => "RShift"
  | .bitOr => "BitOr"
  | .bitXor => "BitXor"
  | .bitAnd => "BitAnd"
  | .floorDiv => "FloorDiv"

def BoolOp.name : BoolOp → String
  | .and => "And"
  | .or => "Or"

def UnaryOp.name : UnaryOp → String
  | .invert => "Invert"
  | .not => "Not"
  | .uAdd => "UAdd"
  | .uSub => "USub"

def CmpOp.name : CmpOp → String
  | .eq => "Eq"
  | .notEq => "NotEq"
  | .lt => "Lt"
  | .ltE => "LtE"
  | .gt => "Gt"
  | .gtE => "GtE"
  | .is => "Is"
  | .isNot => "IsNot"
  | .mem => "In"
  | .notMem => "NotIn"

def Use.name : Use → String
  | .load => "Load"
  | .store => "Store"
  | .del => "Del"

mutual

inductive Expr where
  | boolOp (op : BoolOp) (values : List Expr) (line : Nat)
  | namedExpr (target value : Expr) (line : Nat)
  | binOp (left : Expr) (op : BinOp) (right : Expr) (line : Nat)
  | unaryOp (op : UnaryOp) (operand : Expr) (line : Nat)
  | lambda (params : Params) (body : Expr) (line : Nat)
  | ifExp (test body orelse : Expr) (line : Nat)
  /-- A table; an entry without a key spreads another table. -/
  | dict (entries : List (Option Expr × Expr)) (line : Nat)
  | set (elements : List Expr) (line : Nat)
  | listComp (element : Expr) (generators : List Generator) (line : Nat)
  | setComp (element : Expr) (generators : List Generator) (line : Nat)
  | dictComp (key value : Expr) (generators : List Generator) (line : Nat)
  | generatorExp (element : Expr) (generators : List Generator) (line : Nat)
  | await (value : Expr) (line : Nat)
  | yield (value : Option Expr) (line : Nat)
  | yieldFrom (value : Expr) (line : Nat)
  | compare (left : Expr) (links : List (CmpOp × Expr)) (line : Nat)
  | call (func : Expr) (args : List Expr) (keywords : List Keyword) (line : Nat)
  | formattedValue (value : Expr) (conversion : Int) (spec : Option Expr) (line : Nat)
  | joinedStr (values : List Expr) (line : Nat)
  | constant (value : Literal) (kind : Option String) (line : Nat)
  | attribute (value : Expr) (attr : String) (use : Use) (line : Nat)
  | subscript (value slice : Expr) (use : Use) (line : Nat)
  | starred (value : Expr) (use : Use) (line : Nat)
  | name (id : String) (use : Use) (line : Nat)
  | list (elements : List Expr) (use : Use) (line : Nat)
  | tuple (elements : List Expr) (use : Use) (line : Nat)
  | slice (lower upper step : Option Expr) (line : Nat)

inductive Arg where
  | mk (name : String) (hint : Option Expr) (line : Nat)

/-- The parameters of a function: those that are only given by position, the ordinary ones, one for
all further positional arguments, those that are only given by name with their defaults, one for
all further named arguments, and the defaults of the last positional ones. -/
inductive Params where
  | mk (positional ordinary : List Arg) (rest : Option Arg) (named : List Arg)
      (namedDefaults : List (Option Expr)) (namedRest : Option Arg) (defaults : List Expr)

inductive Generator where
  | mk (target source : Expr) (conditions : List Expr) (isAsync : Nat)

/-- A named argument, or a table of named arguments that is spread. -/
inductive Keyword where
  | mk (name : Option String) (value : Expr)

end

namespace Arg

def name : Arg → String
  | .mk name _ _ => name

def hint : Arg → Option Expr
  | .mk _ hint _ => hint

def line : Arg → Nat
  | .mk _ _ line => line

end Arg

namespace Params

def ordinary : Params → List Arg
  | .mk _ ordinary _ _ _ _ _ => ordinary

def rest : Params → Option Arg
  | .mk _ _ rest _ _ _ _ => rest

def namedRest : Params → Option Arg
  | .mk _ _ _ _ _ namedRest _ => namedRest

def defaults : Params → List Expr
  | .mk _ _ _ _ _ _ defaults => defaults

end Params

namespace Expr

def line : Expr → Nat
  | .boolOp _ _ line | .namedExpr _ _ line | .binOp _ _ _ line | .unaryOp _ _ line
  | .lambda _ _ line | .ifExp _ _ _ line | .dict _ line | .set _ line | .listComp _ _ line
  | .setComp _ _ line | .dictComp _ _ _ line | .generatorExp _ _ line | .await _ line
  | .yield _ line | .yieldFrom _ line | .compare _ _ line | .call _ _ _ line
  | .formattedValue _ _ _ line | .joinedStr _ line | .constant _ _ line | .attribute _ _ _ line
  | .subscript _ _ _ line | .starred _ _ line | .name _ _ line | .list _ _ line | .tuple _ _ line
  | .slice _ _ _ line => line

def kind : Expr → String
  | .boolOp .. => "BoolOp"
  | .namedExpr .. => "NamedExpr"
  | .binOp .. => "BinOp"
  | .unaryOp .. => "UnaryOp"
  | .lambda .. => "Lambda"
  | .ifExp .. => "IfExp"
  | .dict .. => "Dict"
  | .set .. => "Set"
  | .listComp .. => "ListComp"
  | .setComp .. => "SetComp"
  | .dictComp .. => "DictComp"
  | .generatorExp .. => "GeneratorExp"
  | .await .. => "Await"
  | .yield .. => "Yield"
  | .yieldFrom .. => "YieldFrom"
  | .compare .. => "Compare"
  | .call .. => "Call"
  | .formattedValue .. => "FormattedValue"
  | .joinedStr .. => "JoinedStr"
  | .constant .. => "Constant"
  | .attribute .. => "Attribute"
  | .subscript .. => "Subscript"
  | .starred .. => "Starred"
  | .name .. => "Name"
  | .list .. => "List"
  | .tuple .. => "Tuple"
  | .slice .. => "Slice"

def name? : Expr → Option String
  | .name id _ _ => some id
  | _ => none

def isSelfField : Expr → Bool
  | .attribute (.name id _ _) _ _ _ => id == "self"
  | _ => false

end Expr

instance : Inhabited Expr := ⟨.constant .none none 0⟩

/-! ## Statements -/

inductive Stmt where
  | functionDef (isAsync : Bool) (name : String) (params : Params) (body : List Stmt)
      (decorators : List Expr) (returns : Option Expr) (line : Nat)
  | classDef (name : String) (bases : List Expr) (keywords : List Keyword) (body : List Stmt)
      (decorators : List Expr) (line : Nat)
  | ret (value : Option Expr) (line : Nat)
  | assign (targets : List Expr) (value : Expr) (line : Nat)
  | annAssign (target hint : Expr) (value : Option Expr) (line : Nat)
  | augAssign (target : Expr) (op : BinOp) (value : Expr) (line : Nat)
  | forLoop (target source : Expr) (body orelse : List Stmt) (line : Nat)
  | whileLoop (test : Expr) (body orelse : List Stmt) (line : Nat)
  | ifStmt (test : Expr) (body orelse : List Stmt) (line : Nat)
  | withStmt (items : List (Expr × Option Expr)) (body : List Stmt) (line : Nat)
  | raise (error cause : Option Expr) (line : Nat)
  /-- `try`, whose handlers hold the class of the error, the name it is bound to, and a body. -/
  | tryStmt (body : List Stmt) (handlers : List (Option Expr × Option String × List Stmt))
      (orelse finalBody : List Stmt) (line : Nat)
  | importNames (names : List (String × Option String)) (line : Nat)
  | importFrom (module : Option String) (names : List (String × Option String)) (line : Nat)
  | expr (value : Expr) (line : Nat)
  | pass (line : Nat)
  | breakLoop (line : Nat)
  | continueLoop (line : Nat)
  /-- A statement without a counterpart. -/
  | other (kind : String) (exprs : List Expr) (blocks : List (List Stmt)) (line : Nat)

instance : Inhabited Stmt := ⟨.pass 0⟩

abbrev Handler := Option Expr × Option String × List Stmt

namespace Stmt

def line : Stmt → Nat
  | .functionDef _ _ _ _ _ _ line | .classDef _ _ _ _ _ line | .ret _ line | .assign _ _ line
  | .annAssign _ _ _ line | .augAssign _ _ _ line | .forLoop _ _ _ _ line | .whileLoop _ _ _ line
  | .ifStmt _ _ _ line | .withStmt _ _ line | .raise _ _ line | .tryStmt _ _ _ _ line
  | .importNames _ line | .importFrom _ _ line | .expr _ line | .pass line | .breakLoop line
  | .continueLoop line | .other _ _ _ line => line

end Stmt

def Stmt.docText? : Stmt → Option String
  | .expr (.constant (.str text) _ _) _ => some text
  | _ => none

def splitDoc : List Stmt → Option String × List Stmt
  | [] => (none, [])
  | s :: rest =>
    match s.docText? with
    | some text => (some text, rest)
    | none => (none, s :: rest)

end Oxidize.Syntax
