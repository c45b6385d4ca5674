import Oxidize.Emit.Expr
import Oxidize.Proofs.Grouping.Tokens

/-!
# Expressions of the target language

The part of the grammar of expressions that operations, conversions, method calls, fields and items
are written in. Fields, items and calls bind tightest, then the operators in front of an operand,
then conversions, then the operators between two operands, which are read from the left; comparisons
cannot follow each other, and after a conversion `<` would begin the arguments of the type. The
reader goes through the tokens once: `expr least` reads an operand and then everything that binds at
`least` or tighter.
-/

namespace Oxidize.Target

open IR (BinOp UnOp)

/-- An expression of the target language, without its parentheses. -/
inductive Expr where
  | name (name : String)
  | number (digits : String)
  | unary (op : UnOp) (operand : Expr)
  | borrow (operand : Expr)
  | binary (op : BinOp) (left right : Expr)
  | cast (operand : Expr) (type : String)
  | field (obj : Expr) (member : String)
  | index (obj index : Expr)
  | call (func : Expr) (args : List Expr)
  | method (obj : Expr) (name : String) (type? : Option String) (args : List Expr)

/-! ## Levels -/

def signs : Table BinOp :=
  [("*", .mul), ("/", .div), ("%", .mod), ("+", .add), ("-", .sub), ("<<", .lshift),
   (">>", .rshift), ("&", .bitAnd), ("^", .bitXor), ("|", .bitOr), ("==", .eq), ("!=", .ne),
   ("<", .lt), ("<=", .le), (">", .gt), (">=", .ge), ("&&", .and), ("||", .or)]

def level : BinOp → Nat
  | .mul | .div | .mod => 9
  | .add | .sub => 8
  | .lshift | .rshift => 7
  | .bitAnd => 6
  | .bitXor => 5
  | .bitOr => 4
  | .eq | .ne | .lt | .le | .gt | .ge => 3
  | .and => 2
  | _ => 1

def castLevel : Nat := 10

def prefixLevel : Nat := 11

def top : Nat := 12

/-- How tightly the left operand of an operator has to bind: no less than the operator, and tighter
if that is a comparison. -/
def leftLevel (op : BinOp) : Nat :=
  if Emit.isComparison op then level op + 1 else level op

/-! ## Reading -/

def atom? (word : String) : Option Expr :=
  if word.toList.all Char.isDigit then some (.number word)
  else if word == "as" || word.toList.head?.any Char.isDigit then none
  else some (.name word)

def inFront? : String → Option (Expr → Expr)
  | "-" => some (.unary .neg)
  | "!" => some (.unary .not)
  | "&" => some .borrow
  | _ => none

def opensTypes : List Token → Bool
  | .sign s :: _ => s == "<" || s == "<<"
  | _ => false

def isFraction (obj : Expr) (member : String) : Bool :=
  match obj with
  | .number _ => member.toList.head?.any Char.isDigit
  | _ => false

mutual

/-- Read an expression whose operators bind at `least` or tighter. -/
def expr (least : Nat) (ts : List Token) : Option (Expr × List Token) := do
  let (e, rest) ← operand ts
  if rest.length < ts.length then more least top e rest else none
termination_by (ts.length, 1)

/-- Read on after the expression `e`, which binds at `reached`. -/
def more (least reached : Nat) (e : Expr) (ts : List Token) : Option (Expr × List Token) :=
  match ts with
  | .word "as" :: .word type :: rest =>
    if opensTypes rest then none else more least castLevel (.cast e type) rest
  | .sign s :: rest =>
    match signs.get? s with
    | some op =>
      if level op < least then some (e, ts)
      else if reached < leftLevel op then none
      else do
        let (right, after) ← expr (level op + 1) rest
        if after.length ≤ rest.length then more least (level op) (.binary op e right) after else none
    | none => some (e, ts)
  | _ => some (e, ts)
termination_by (ts.length, 0)

def operand (ts : List Token) : Option (Expr × List Token) :=
  match ts with
  | .sign "(" :: rest => do
    let (e, after) ← expr 0 rest
    match after with
    | .sign ")" :: after => if after.length ≤ rest.length then suffixes e after else none
    | _ => none
  | .sign s :: rest => do
    let apply ← inFront? s
    let (e, rest) ← operand rest
    some (apply e, rest)
  | .word w :: rest => do
    let e ← atom? w
    suffixes e rest
  | _ => none
termination_by (ts.length, 0)

def suffixes (e : Expr) (ts : List Token) : Option (Expr × List Token) :=
  match ts with
  | .sign "." :: .word member :: rest => memberOf e member rest
  | .sign "[" :: rest => do
    let (i, after) ← expr 0 rest
    match after with
    | .sign "]" :: after => if after.length ≤ rest.length then suffixes (.index e i) after else none
    | _ => none
  | .sign "(" :: rest => do
    let (args, after) ← arguments rest
    if after.length ≤ rest.length then suffixes (.call e args) after else none
  | _ => some (e, ts)
termination_by (ts.length, 0)

def memberOf (e : Expr) (member : String) (ts : List Token) : Option (Expr × List Token) :=
  match ts with
  | .sign "(" :: rest => do
    let (args, after) ← arguments rest
    if after.length ≤ rest.length then suffixes (.method e member none args) after else none
  | .sign "::" :: .sign "<" :: .word type :: .sign ">" :: .sign "(" :: rest => do
    let (args, after) ← arguments rest
    if after.length ≤ rest.length then suffixes (.method e member (some type) args) after else none
  | ts => if isFraction e member then none else suffixes (.field e member) ts
termination_by (ts.length, 1)

def arguments (ts : List Token) : Option (List Expr × List Token) :=
  match ts with
  | .sign ")" :: rest => some ([], rest)
  | ts => do
    let (e, rest) ← expr 0 ts
    match rest with
    | .sign ")" :: rest => some ([e], rest)
    | .sign "," :: rest =>
      if rest.length < ts.length then do
        let (es, rest) ← arguments rest
        some (e :: es, rest)
      else none
    | _ => none
termination_by (ts.length, 2)

end

def parse (text : String) : Option Expr :=
  match expr 0 (tokens text) with
  | some (e, []) => some e
  | _ => none

example : parse "a + b / c" =
    some (.binary .add (.name "a") (.binary .div (.name "b") (.name "c"))) := by
  cbv

example : parse "a < b < c" = none := by cbv

example : parse "x as i64 < y" = none := by cbv

example : parse "-a[i as usize].len() as i64" =
    some (.cast (.unary .neg (.method (.index (.name "a") (.cast (.name "i") "usize")) "len" none []))
      "i64") := by
  cbv

end Oxidize.Target
