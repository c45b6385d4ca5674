import Oxidize.Lower.Hint

/-!
# Taking over expressions

Chains of comparisons become conjunctions, chains of `and` and `or` become nested operations, and a
call of an attribute becomes a method call.

The scopes hold the names that are defined at a point of the source program.
-/

namespace Oxidize.Lower

abbrev Scope := Table IR.Line

/-- The scope at hand and the scopes around it, innermost first. -/
structure Scopes where
  current : Scope := []
  outer : List Scope := []
  deriving DecidableEq

namespace Scopes

def push (s : Scopes) : Scopes :=
  { current := [], outer := s.current :: s.outer }

/-- Leave the scope at hand; the outermost scope stays. -/
def pop (s : Scopes) : Scopes :=
  match s.outer with
  | scope :: outer => { current := scope, outer }
  | [] => s

def define (s : Scopes) (name : String) (line : IR.Line) : Scopes :=
  { s with current := s.current.set name line }

def lookup? (s : Scopes) (name : String) : Option IR.Line :=
  (s.current :: s.outer).findSome? fun scope => scope.get? name

def isDefined (s : Scopes) (name : String) : Bool :=
  (s.lookup? name).isSome

def depth (s : Scopes) : Nat :=
  s.outer.length

end Scopes

/-- Taking over a part of a source program: names get defined, and it may fail. -/
abbrev Lower (α : Type) := StateT Scopes (Except LowerError) α

/-- Fail because of a feature without counterpart. -/
def unsupported {α : Type} (feature : Feature) (line : Nat) : Lower α :=
  throw (.unsupported feature line)

def define (name : String) (line : Nat) : Lower Unit :=
  modify fun s => s.define name line

/-- Define a name unless it is defined already; tells whether it was new. -/
def declare (name : String) (line : Nat) : Lower Bool := do
  if (← get).isDefined name then return false
  else
    define name line
    return true

def inScope {α : Type} (body : Lower α) : Lower α := do
  modify Scopes.push
  let a ← body
  modify Scopes.pop
  return a

open Syntax (Expr Generator Keyword)

def binOp? : Syntax.BinOp → Option IR.BinOp
  | .add => some .add
  | .sub => some .sub
  | .mult => some .mul
  | .div => some .div
  | .floorDiv => some .floorDiv
  | .mod => some .mod
  | .pow => some .pow
  | .bitAnd => some .bitAnd
  | .bitOr => some .bitOr
  | .bitXor => some .bitXor
  | .lShift => some .lshift
  | .rShift => some .rshift
  | .matMult => none

def cmpOp : Syntax.CmpOp → IR.BinOp
  | .eq => .eq
  | .notEq => .ne
  | .lt => .lt
  | .ltE => .le
  | .gt => .gt
  | .gtE => .ge
  | .mem => .mem
  | .notMem => .notMem
  | .is => .is
  | .isNot => .isNot

def boolOp : Syntax.BoolOp → IR.BinOp
  | .and => .and
  | .or => .or

def unaryOp : Syntax.UnaryOp → IR.UnOp
  | .uAdd => .pos
  | .uSub => .neg
  | .not => .not
  | .invert => .bitNot

def joined (op : IR.BinOp) (line : Nat) : List IR.Expr → IR.Expr
  | [] => .absent
  | first :: others => others.foldl (fun acc e => .binary op acc e line) first

/-- The comparisons of a chain: each operand is compared with the one before it. -/
def comparisons (line : Nat) (left : IR.Expr) : List (IR.BinOp × IR.Expr) → List IR.Expr
  | [] => []
  | (op, right) :: links => .binary op left right line :: comparisons line right links

def specText : Option Expr → String
  | some (.joinedStr values _) =>
    String.join (values.filterMap fun
      | .constant value _ _ => some value.display
      | _ => none)
  | _ => ""

def generatorTarget (line : Nat) : List Generator → Lower String
  | [.mk target _ _ _] =>
    match target.name? with
    | some name => return name
    | none => unsupported .generatorTarget line
  | _ => unsupported .severalGenerators line

mutual

def expr : Expr → Lower IR.Expr
  | .constant value _ line => return .literal value line
  | .name id _ line => return .name id line
  | .binOp left op right line => do
    match binOp? op with
    | none => unsupported (.binaryOperator op.name) line
    | some o =>
      let l ← expr left
      let r ← expr right
      return .binary o l r line
  | .unaryOp op operand line => return .unary (unaryOp op) (← expr operand) line
  | .compare left chain line => do
    let first ← expr left
    return joined .and line (comparisons line first (← links chain))
  | .boolOp op values line => return joined (boolOp op) line (← exprs values)
  | .call (.attribute obj method _ _) args named line => do
    let lowered ← exprs args
    let kwargs ← keywords named
    return .method (← expr obj) method lowered (Table.ofList kwargs) line
  | .call func args named line => do
    let lowered ← exprs args
    let kwargs ← keywords named
    return .call (← expr func) lowered (Table.ofList kwargs) line
  | .attribute value attr _ line => return .attr (← expr value) attr line
  | .subscript value index _ line => do
    let obj ← expr value
    return .subscript obj (← expr index) line
  | .list elements _ line => return .list (← exprs elements) line
  | .dict entries line => do
    let keys ← keys entries
    let values ← values entries
    return .dict (keys.zip values) line
  | .set elements line => return .set (← exprs elements) line
  | .tuple elements _ line => return .tuple (← exprs elements) line
  | .ifExp test body orelse line => do
    let condition ← expr test
    let yes ← expr body
    return .ifExp condition yes (← expr orelse) line
  | .listComp element generators line => do
    let target ← generatorTarget line generators
    let item ← expr element
    let (source, conditions) ← generator generators
    return .listComp item target source conditions line
  | .joinedStr parts line => return .fstring (← formatParts line parts) line
  | .formattedValue value _ _ _ => expr value
  | .await value line => return .await (← expr value) line
  | .slice lower upper step line => do
    let l ← operand lower
    let u ← operand upper
    return .slice l u (← operand step) line
  | e => unsupported (.expression e.kind) e.line

def exprs : List Expr → Lower (List IR.Expr)
  | [] => return []
  | e :: es => do
    let first ← expr e
    return first :: (← exprs es)

def operand : Option Expr → Lower IR.Expr
  | none => return .absent
  | some e => expr e

def links : List (Syntax.CmpOp × Expr) → Lower (List (IR.BinOp × IR.Expr))
  | [] => return []
  | (op, e) :: rest => do
    let right ← expr e
    return (cmpOp op, right) :: (← links rest)

def keywords : List Keyword → Lower (Table IR.Expr)
  | [] => return []
  | .mk name value :: rest => do
    match name.filter (· != "") with
    | some n =>
      let first ← expr value
      return (n, first) :: (← keywords rest)
    | none => keywords rest

/-- Take over the keys of a table; a table that is spread has the key for nothing. -/
def keys : List (Option Expr × Expr) → Lower (List IR.Expr)
  | [] => return []
  | (some key, _) :: entries => do
    let first ← expr key
    return first :: (← keys entries)
  | (none, _) :: entries => return .literal .none none :: (← keys entries)

def values : List (Option Expr × Expr) → Lower (List IR.Expr)
  | [] => return []
  | (_, value) :: entries => do
    let first ← expr value
    return first :: (← values entries)

def generator : List Generator → Lower (IR.Expr × List IR.Expr)
  | .mk _ source conditions _ :: _ => do
    let items ← expr source
    return (items, ← exprs conditions)
  | [] => return (.absent, [])

def formatParts (line : Nat) : List Expr → Lower (List IR.Expr)
  | [] => return []
  | .constant value _ _ :: parts => return .literal value line :: (← formatParts line parts)
  | .formattedValue value _ spec _ :: parts => do
    let code ← expr value
    let text := specText spec
    let part := if text == "" then code else .formatted code text line
    return part :: (← formatParts line parts)
  | part :: parts => do
    let first ← expr part
    return first :: (← formatParts line parts)

end

end Oxidize.Lower
