import Oxidize.Proofs.Grouping.Endings

/-!
# Templates keep their operands together

Divisions, powers, membership, lengths, conversions, fields and items are written by templates that
put the written operands next to operators, conversions and points, in most places without
parentheses. `Renders` says what such an expression has to be read as: each operator, conversion,
method call and index is applied to what its whole operand is read as. What is written for an
expression is read so if every operand binds tightly enough for the place that it is written in
(`Fits`), and not in general (`not_renders_floorDivision`).
-/

namespace Oxidize.Emit

open IR (Expr BinOp UnOp)
open Target (Reads Encloses)
open Target (level top prefixLevel castLevel)

/-! ## What an expression has to be read as -/

def lengthOf? : Expr → Option Expr
  | .call (.name "len" _) [x] _ _ => some x
  | _ => none

def isInt (e : Expr) (i : Int) : Bool :=
  match e with
  | .literal (.int j) _ => j == i
  | _ => false

/-- The collection that a comparison of its length with a constant asks about, and whether it asks
for an empty one. -/
def emptiness? (op : BinOp) (left right : Expr) : Option (Expr × Bool) :=
  ((lengthOf? left).bind fun x => (askedLeft op (isInt right 0) (isInt right 1)).map (x, ·)) <|>
    ((lengthOf? right).bind fun x => (askedRight op (isInt left 0)).map (x, ·))

/-- The operator in front of an operand that an operator is written as. -/
def writtenOp : UnOp → UnOp
  | .bitNot => .not
  | op => op

/-- The question whether a collection is empty, or whether it is not. -/
def question (t : Target.Expr) (empty : Bool) : Target.Expr :=
  if empty then .method t "is_empty" none [] else .unary .not (.method t "is_empty" none [])

/-- What an expression may be read as. Every operator, conversion, method call and index is applied
to what the whole of an operand is read as. -/
inductive Renders : Expr → Target.Expr → Prop
  | name (n : String) (line : IR.Line) : Renders (.name n line) (.name n)
  | unwrapped (n : String) (line : IR.Line) :
    Renders (.name n line) (.method (.name n) "unwrap" none [])
  | number (n : Nat) (line : IR.Line) : Renders (.literal (.int n) line) (.number (toString n))
  | unary {x : Expr} {t : Target.Expr} (op : UnOp) (line : IR.Line) (hx : Renders x t) :
    Renders (.unary op x line) (.unary (writtenOp op) t)
  | binary {l r : Expr} {tl tr : Target.Expr} (op : BinOp) (line : IR.Line)
    (hop : (symbol? op).isSome = true) (hl : Renders l tl) (hr : Renders r tr) :
    Renders (.binary op l r line) (.binary op tl tr)
  | wrappedLeft {l r : Expr} {tl tr : Target.Expr} {op : BinOp} (line : IR.Line)
    (hop : op = .eq ∨ op = .ne) (hl : Renders l tl) (hr : Renders r tr) :
    Renders (.binary op l r line) (.binary op (.call (.name "Some") [tl]) tr)
  | wrappedRight {l r : Expr} {tl tr : Target.Expr} {op : BinOp} (line : IR.Line)
    (hop : op = .eq ∨ op = .ne) (hl : Renders l tl) (hr : Renders r tr) :
    Renders (.binary op l r line) (.binary op tl (.call (.name "Some") [tr]))
  | joined {l r : Expr} {tl tr : Target.Expr} (line : IR.Line) (hl : Renders l tl)
    (hr : Renders r tr) : Renders (.binary .div l r line) (.method tl "join" none [tr])
  | question {op : BinOp} {l r x : Expr} {empty : Bool} {t : Target.Expr} (line : IR.Line)
    (hempty : emptiness? op l r = some (x, empty)) (hx : Renders x t) :
    Renders (.binary op l r line) (question t empty)
  | lengthRight {op : BinOp} {l r x : Expr} {tl t : Target.Expr} (line : IR.Line)
    (hop : isComparison op = true) (hr : lengthOf? r = some x) (hl : Renders l tl)
    (hx : Renders x t) :
    Renders (.binary op l r line) (.binary op (.cast tl "usize") (.method t "len" none []))
  | lengthLeft {op : BinOp} {l r x : Expr} {tr t : Target.Expr} (line : IR.Line)
    (hop : isComparison op = true) (hl : lengthOf? l = some x) (hx : Renders x t)
    (hr : Renders r tr) :
    Renders (.binary op l r line) (.binary op (.method t "len" none []) (.cast tr "usize"))
  | floorDiv {l r : Expr} {tl tr : Target.Expr} (line : IR.Line) (hl : Renders l tl)
    (hr : Renders r tr) : Renders (.binary .floorDiv l r line) (.binary .div tl tr)
  | pow {l r : Expr} {tl tr : Target.Expr} (line : IR.Line) (hl : Renders l tl)
    (hr : Renders r tr) :
    Renders (.binary .pow l r line) (.method (.cast tl "f64") "powf" none [.cast tr "f64"])
  | mem {l r : Expr} {tl tr : Target.Expr} (line : IR.Line) (hl : Renders l tl)
    (hr : Renders r tr) :
    Renders (.binary .mem l r line) (.method tr "contains" none [.borrow tl])
  | notMem {l r : Expr} {tl tr : Target.Expr} (line : IR.Line) (hl : Renders l tl)
    (hr : Renders r tr) :
    Renders (.binary .notMem l r line) (.unary .not (.method tr "contains" none [.borrow tl]))
  | len {x : Expr} {t : Target.Expr} {type : String} (nameLine line : IR.Line) (hx : Renders x t) :
    Renders (.call (.name "len" nameLine) [x] [] line) (.cast (.method t "len" none []) type)
  | float {x : Expr} {t : Target.Expr} (nameLine line : IR.Line) (hx : Renders x t) :
    Renders (.call (.name "float" nameLine) [x] [] line) (.cast t "f64")
  | int {x : Expr} {t : Target.Expr} (nameLine line : IR.Line) (hx : Renders x t) :
    Renders (.call (.name "int" nameLine) [x] [] line) (.cast t "i64")
  | parsed {x : Expr} {t : Target.Expr} (nameLine line : IR.Line) (hx : Renders x t) :
    Renders (.call (.name "int" nameLine) [x] [] line)
      (.method (.method t "parse" (some "i64") []) "unwrap" none [])
  | field {x : Expr} {t : Target.Expr} (member : String) (line : IR.Line) (hx : Renders x t) :
    Renders (.attr x member line) (.field t member)
  | cloned {x : Expr} {t : Target.Expr} (member : String) (line : IR.Line) (hx : Renders x t) :
    Renders (.attr x member line) (.method (.field t member) "clone" none [])
  | item {x i : Expr} {t ti : Target.Expr} (line : IR.Line) (hx : Renders x t) (hi : Renders i ti) :
    Renders (.subscript x i line) (.index t ti)
  | position {x i : Expr} {t ti : Target.Expr} (line : IR.Line) (hx : Renders x t)
    (hi : Renders i ti) : Renders (.subscript x i line) (.index t (.cast ti "usize"))
  | key {x i : Expr} {t ti : Target.Expr} (line : IR.Line) (hx : Renders x t)
    (hi : Renders i ti) : Renders (.subscript x i line) (.index t (.borrow ti))
  | component {x : Expr} {t : Target.Expr} (n : Nat) (indexLine line : IR.Line) (hx : Renders x t) :
    Renders (.subscript x (.literal (.int n) indexLine) line) (.field t (toString n))

/-! ## How tightly a written expression binds -/

def isNumeral : Expr → Bool
  | .literal (.int _) _ => true
  | .unary .neg x _ => isNumeral x
  | _ => false

def isCast : Expr → Bool
  | .call (.name f _) [x] _ _ => f != "int" || isNumeral x
  | _ => false

/-- How tightly a written operation binds, if no rule for paths or lengths applies. -/
def operationLevel : BinOp → Nat
  | .floorDiv => level .div
  | .pow | .mem => top
  | .notMem => prefixLevel
  | op => level op

def binding (c : Context) : Expr → Nat
  | .unary .. => prefixLevel
  | .binary op l r _ =>
    if joinsPath c op l then top
    else match emptiness? op l r with
      | some (_, empty) => if empty then top else prefixLevel
      | none => operationLevel op
  | e => if isCast e then castLevel else top

def isEquality : BinOp → Bool
  | .eq | .ne => true
  | _ => false

def isOptionVar (c : Context) (e : Expr) : Bool :=
  e.name?.any c.optionVars.contains

/-- Is the left operand of the expression compared with an optional variable? -/
def wrapsLeft (c : Context) : Expr → Bool
  | .binary op l r _ => isEquality op && !isOptionVar c l && isOptionVar c r
  | _ => false

def endsInLength (c : Context) : Expr → Bool
  | .unary _ x _ => endsInLength c x
  | .binary op l r _ =>
    !joinsPath c op l && (emptiness? op l r).isNone && endsInLength c r &&
      (op == .floorDiv || (symbol? op).isSome && !r.isBinary)
  | e => (lengthOf? e).isSome

/-- Does a rule ask whether the left operand of a comparison is a length? -/
def asksLeft (op : BinOp) (right : Expr) : Bool :=
  (askedLeft op (isInt right 0) (isInt right 1)).isSome || isComparison op && right.name?.isSome

/-- Does a rule ask whether the right operand of a comparison is a length? -/
def asksRight (op : BinOp) (left : Expr) : Bool :=
  (askedRight op (isInt left 0)).isSome || isComparison op && left.name?.isSome

/-- The operands of an operation with a symbol are taken for what they are: an operand that a rule
takes for a length is one, none is taken for the value of an option that was compared inside of it,
and no type is followed by an angle bracket. -/
structure FitsSymbol (c : Context) (op : BinOp) (l r : Expr) : Prop where
  lengthLeft : asksLeft op r = true → endsInLength c l = true → (lengthOf? l).isSome = true
  lengthRight : asksRight op l = true → endsInLength c r = true → (lengthOf? r).isSome = true
  optionLeft : isEquality op = true → isOptionVar c l = false → isOptionVar c r = true →
    wrapsLeft c l = false
  optionRight : isEquality op = true → isOptionVar c l = true → wrapsLeft c r = false
  type : op = .lt ∨ op = .lshift → isCast l = true →
    op = .lt ∧ (lengthOf? l).isSome = true ∧ r.name?.isSome = true

/-- The operands of an operation bind tightly enough for the template that it is written by. -/
def FitsOperation (c : Context) (op : BinOp) (l r : Expr) : Prop :=
  match op with
  | .floorDiv => level .div ≤ binding c l ∧ castLevel ≤ binding c r
  | .pow =>
    (l.isBinary = true ∨ castLevel ≤ binding c l) ∧ castLevel ≤ binding c r
  | .mem | .notMem => prefixLevel ≤ binding c l ∧ top ≤ binding c r
  | _ => FitsSymbol c op l r

/-- The operands of the expression bind tightly enough for the places that they are written in. -/
def Fits (c : Context) : Expr → Prop
  | .unary _ x _ => prefixLevel ≤ binding c x
  | .binary op l r _ => joinsPath c op l = false → FitsOperation c op l r
  | .call (.name f _) [x] _ _ =>
    if f = "float" then castLevel ≤ binding c x
    else f = "int" ∧ isNumeral x = true ∨ top ≤ binding c x
  | .attr x _ _ | .subscript x _ _ => top ≤ binding c x
  | _ => True

/-! ## Expressions that are written by templates -/

/-- The name is the one of a function that is written by a template. -/
structure IsBuiltin (c : Context) (f : String) : Prop where
  name : f ∈ ["len", "float", "int"]
  notNarrowed : c.narrowed.contains f = false
  notNative : c.nativeImports.get? f = none
  notImported : c.crateImports.get? f = none
  notClass : c.classNames.contains f = false

/-- The member of the name is a field of its value: no import gives it a meaning of its own. -/
structure IsField (c : Context) (packages : Table Package) (n member : String) : Prop where
  notLibrary : Library.builtin? s!"{n}.{member}" = none
  notPackaged : ∀ p ∈ packages.values, p.functions.get? s!"{n}.{member}" = none
  notCalendar : ((c.typeEnv.get? n).bind fun type =>
    Library.calendarMethod? s!"{Context.lastPart type}.{member}") = none
  notImported : c.crateImports.get? n = none

/-- The expression is a variable, a number, an operation, a field, an item, or a call of a function
that is written by a template. -/
def Templated (c : Context) (packages : Table Package) : Expr → Prop
  | .name n _ => IsLocal c n
  | .literal (.int i) _ => 0 ≤ i
  | .unary op _ _ => op ≠ .pos
  | .binary op _ _ _ => op ≠ .is ∧ op ≠ .isNot
  | .call (.name f _) [_] [] _ => IsBuiltin c f
  | .attr x member _ =>
    Stub.isUsableName member = true ∧ ∀ n, x.name? = some n → IsField c packages n member
  | .subscript .. => True
  | _ => False

lemma Templated.of_call {c : Context} {packages : Table Package} {func : Expr} {args : List Expr}
    {kwargs : Table Expr} {line : IR.Line}
    (h : Templated c packages (.call func args kwargs line)) :
    ∃ f nameLine x, func = .name f nameLine ∧ args = [x] ∧ kwargs = [] ∧ IsBuiltin c f :=
  match func, args, kwargs, h with
  | .name f nameLine, [x], [], hf => ⟨f, nameLine, x, rfl, rfl, rfl, hf⟩

def templateOperands : Expr → List Expr
  | .unary _ x _ => [x]
  | .binary _ l r _ => [l, r]
  | .call _ args _ _ => args
  | .attr x _ _ => [x]
  | .subscript x i _ => [x, i]
  | _ => []

inductive Throughout (P : Expr → Prop) : Expr → Prop
  | intro {e : Expr} (he : P e) (hoperands : ∀ x ∈ templateOperands e, Throughout P x) : Throughout P e

end Oxidize.Emit
