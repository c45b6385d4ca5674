import Mathlib
import Oxidize.Proofs.Grouping.Operations

/-!
# Arithmetic keeps its values

The source language rounds a quotient down and gives a remainder the sign of the divisor, the target
language rounds towards zero. What is written for sums, products, quotients and remainders of
integers is read back and evaluated. It has the value of the source as long as no value leaves 64
bits, if a division is written next to operands that bind tightly enough and wherever the two ways
of rounding agree (`value_arithmetic`); for one operation that is exactly where they do
(`targetApply_eq_iff`).
-/

namespace Oxidize

open IR (Expr BinOp)
open Target (level prefixLevel top leftLevel parse)
open Option

/-! ## Two ways of rounding -/

def int64? (v : Int) : Option Int :=
  if -2 ^ 63 ≤ v ∧ v < 2 ^ 63 then some v else none

lemma int64?_eq_some {v w : Int} : int64? v = some w ↔ (-2 ^ 63 ≤ v ∧ v < 2 ^ 63) ∧ v = w := by
  unfold int64?
  rw [ite_none_right_eq_some, some_inj]

/-- What an operator makes of two integers in the source language. -/
def sourceApply : BinOp → Int → Int → Option Int
  | .add, x, y => int64? (x + y)
  | .sub, x, y => int64? (x - y)
  | .mul, x, y => int64? (x * y)
  | .floorDiv, x, y => if y = 0 then none else int64? (x.fdiv y)
  | .mod, x, y => if y = 0 then none else int64? (x.fmod y)
  | _, _, _ => none

/-- What an operator makes of two integers in the target language. A remainder needs its quotient to
have 64 bits too. -/
def targetApply : BinOp → Int → Int → Option Int
  | .add, x, y => int64? (x + y)
  | .sub, x, y => int64? (x - y)
  | .mul, x, y => int64? (x * y)
  | .div, x, y => if y = 0 then none else int64? (x.tdiv y)
  | .mod, x, y => if y = 0 then none else (int64? (x.tdiv y)).map fun _ => x.tmod y
  | _, _, _ => none

def isArithmetic : BinOp → Bool
  | .add | .sub | .mul | .floorDiv | .mod => true
  | _ => false

/-- The operator of the target language that an operator of arithmetic is written as. -/
def divisionSign : BinOp → BinOp
  | .floorDiv => .div
  | op => op

/-- Rounding down and rounding towards zero give the same: the division leaves nothing, or the
operands have the same sign. A remainder of the least integer cannot be asked for by -1. -/
def RoundsAlike (op : BinOp) (x y : Int) : Prop :=
  match op with
  | .floorDiv => y ∣ x ∨ 0 ≤ x * y
  | .mod => (y ∣ x ∨ 0 ≤ x * y) ∧ ¬ (x = -2 ^ 63 ∧ y = -1)
  | _ => True

variable {x y : Int}

lemma tdiv_eq_fdiv_iff (hy : y ≠ 0) : x.tdiv y = x.fdiv y ↔ y ∣ x ∨ 0 ≤ x * y := by
  rw [Int.tdiv_eq_fdiv]
  by_cases hdvd : y ∣ x
  · simp [hdvd]
  have hx : x ≠ 0 := fun hx => hdvd (hx ▸ Int.dvd_zero y)
  simp only [hdvd, if_false, false_or]
  rcases Int.lt_or_gt_of_ne hx with hx | hx <;> rcases Int.lt_or_gt_of_ne hy with hy | hy
  · have hprod : 0 < x * y := Int.mul_pos_of_neg_of_neg hx hy
    simp [Int.sign_eq_neg_one_of_neg hy, Int.not_le.2 hx, Int.not_le.2 hy, Int.le_of_lt hprod]
  · have hprod : x * y < 0 := Int.mul_neg_of_neg_of_pos hx hy
    rw [if_neg (Int.not_le.2 hx), if_pos (Int.le_of_lt hy), Int.sign_eq_one_of_pos hy]
    omega
  · have hprod : x * y < 0 := Int.mul_neg_of_pos_of_neg hx hy
    rw [if_pos (Int.le_of_lt hx), if_neg (Int.not_le.2 hy)]
    omega
  · have hprod : 0 < x * y := Int.mul_pos hx hy
    simp [Int.le_of_lt hx, Int.le_of_lt hy, Int.le_of_lt hprod]

lemma tmod_eq_fmod_iff (hy : y ≠ 0) : x.tmod y = x.fmod y ↔ y ∣ x ∨ 0 ≤ x * y := by
  rw [← tdiv_eq_fdiv_iff hy, Int.tmod_def, Int.fmod_def]
  constructor
  · intro h
    exact Int.eq_of_mul_eq_mul_left hy (by omega)
  · intro h
    rw [h]

/-- Only one quotient of integers of 64 bits has more. -/
lemma int64?_tdiv (hx : -2 ^ 63 ≤ x ∧ x < 2 ^ 63) (h : ¬ (x = -2 ^ 63 ∧ y = -1)) :
    int64? (x.tdiv y) = some (x.tdiv y) := by
  have hbound : (x.tdiv y).natAbs ≤ x.natAbs := Int.natAbs_tdiv_le_natAbs x y
  refine int64?_eq_some.2 ⟨⟨by omega, ?_⟩, rfl⟩
  -- the quotient could only be too large if it had the size of the least integer
  refine Int.not_le.1 fun hlarge => h ?_
  have hleast : x = -2 ^ 63 := by omega
  refine ⟨hleast, ?_⟩
  subst hleast
  have habs : (Int.natAbs (-2 ^ 63)) / y.natAbs = 2 ^ 63 := by
    have habs : _ = Int.natAbs (-2 ^ 63) / y.natAbs := Int.natAbs_tdiv (-2 ^ 63) y
    omega
  have hone : y.natAbs = 1 := by
    rcases Nat.lt_or_ge 1 y.natAbs with hmore | hless
    · have hsmall := Nat.div_lt_self (n := Int.natAbs (-2 ^ 63)) (by decide) hmore
      rw [habs] at hsmall
      exact absurd hsmall (by decide)
    · have hzero : y.natAbs ≠ 0 := by
        intro hzero
        rw [hzero, Nat.div_zero] at habs
        exact absurd habs (by decide)
      omega
  rcases Int.natAbs_eq y with hy | hy
  · rw [hy, hone] at hlarge
    exact absurd hlarge (by decide)
  · rw [hy, hone]
    rfl

variable {op : BinOp}

/-- An operation with a value in the source language has the same one in the target language exactly
where the two ways of rounding agree. -/
lemma targetApply_eq_iff (hop : isArithmetic op = true) {v : Int}
    (hx : int64? x = some x) (h : sourceApply op x y = some v) :
    targetApply (divisionSign op) x y = some v ↔ RoundsAlike op x y := by
  obtain ⟨hrange, -⟩ := int64?_eq_some.1 hx
  cases op with
  | add | sub | mul => exact iff_of_true h trivial
  | floorDiv =>
    simp only [sourceApply, ite_none_left_eq_some] at h
    obtain ⟨hy, h⟩ := h
    obtain ⟨hfits, rfl⟩ := int64?_eq_some.1 h
    simp only [targetApply, divisionSign, hy, if_false, RoundsAlike, ← tdiv_eq_fdiv_iff hy,
      int64?_eq_some]
    exact ⟨fun h => h.2, fun h => ⟨h ▸ hfits, h⟩⟩
  | mod =>
    simp only [sourceApply, ite_none_left_eq_some] at h
    obtain ⟨hy, h⟩ := h
    obtain ⟨hfits, rfl⟩ := int64?_eq_some.1 h
    simp only [targetApply, divisionSign, hy, if_false, RoundsAlike, ← tmod_eq_fmod_iff hy,
      map_eq_some_iff]
    constructor
    · rintro ⟨q, hq, hmod⟩
      refine ⟨hmod, ?_⟩
      rintro ⟨rfl, rfl⟩
      cases hq
    · rintro ⟨hmod, hleast⟩
      exact ⟨_, int64?_tdiv hrange hleast, hmod⟩
  | _ => cases hop

/-! ## Values of expressions -/

def Target.numeral (digits : String) : Int :=
  Nat.ofDigitChars 10 digits.toList 0

/-- The value of an expression of the target language for the integers that its names stand for, if
none of its steps fails. -/
def Target.value (env : String → Int) : Target.Expr → Option Int
  | .name n => int64? (env n)
  | .number digits => int64? (numeral digits)
  | .unary .neg (.number digits) => int64? (-numeral digits)
  | .unary .neg e => (value env e).bind fun v => int64? (-v)
  | .binary op l r => (value env l).bind fun x => (value env r).bind fun y => targetApply op x y
  | _ => none

/-- The value of an expression of the source language, if none of its steps leaves 64 bits or
divides by zero. -/
def IR.Expr.intValue (env : String → Int) : Expr → Option Int
  | .name n _ => int64? (env n)
  | .literal (.int i) _ => int64? i
  | .binary op l r _ =>
    (l.intValue env).bind fun x => (r.intValue env).bind fun y => sourceApply op x y
  | _ => none

/-- The two ways of rounding agree at every operation of the expression. -/
def IR.Expr.RoundsAlike (env : String → Int) : Expr → Prop
  | .binary op l r _ =>
    l.RoundsAlike env ∧ r.RoundsAlike env ∧
      ∀ x ∈ l.intValue env, ∀ y ∈ r.intValue env, Oxidize.RoundsAlike op x y
  | _ => True

def IR.Expr.isSum : Expr → Bool
  | .binary .add _ _ _ | .binary .sub _ _ _ => true
  | _ => false

/-- No sum is divided, and nothing is divided by an operation: divisions are written without
parentheses. -/
def IR.Expr.DividesTerms : Expr → Prop
  | .binary op l r _ =>
    l.DividesTerms ∧ r.DividesTerms ∧ (op = .floorDiv → l.isSum = false ∧ r.isBinary = false)
  | _ => True

namespace Emit

open Target (Reads)

/-- The expression is built of integers, variables that are written as they are, and operators of
arithmetic. -/
inductive IsArithmetic (c : Context) : Expr → Prop
  | name {n : String} {line : IR.Line} (hlocal : IsLocal c n)
    (hnarrow : c.narrowed.contains n = false) : IsArithmetic c (.name n line)
  | number (i : Int) (line : IR.Line) : IsArithmetic c (.literal (.int i) line)
  | binary {op : BinOp} {l r : Expr} {line : IR.Line} (hop : isArithmetic op = true)
    (hl : IsArithmetic c l) (hr : IsArithmetic c r) : IsArithmetic c (.binary op l r line)

/-- How tightly what is written for an arithmetic expression binds. -/
def arithmeticLevel : Expr → Nat
  | .binary op _ _ _ => level (divisionSign op)
  | _ => prefixLevel

/-- The text is read as an expression that has the value of the source wherever the two ways of
rounding agree. -/
structure Computes (e : Expr) (code : String) (t : Target.Expr) : Prop where
  pointless : Pointless code
  reads : ∃ lv typed, arithmeticLevel e ≤ lv ∧ Reads lv typed code t
  value : ∀ env v, e.intValue env = some v → e.RoundsAlike env → Target.value env t = some v

lemma numeral_toString (n : Nat) : Target.numeral (toString n) = n := by
  unfold Target.numeral
  rw [Template.toList_toString, Nat.ofDigitChars_toDigits (by decide) (by decide)]

def intTree : Int → Target.Expr
  | .ofNat n => .number (toString n)
  | .negSucc n => .unary .neg (.number (toString (n + 1)))

lemma reads_negated (n : Nat) :
    Reads prefixLevel false ("-" ++ toString n) (.unary .neg (.number (toString n))) :=
  (reads_number n).inFront (s := "-") (by decide) (by simp) rfl

lemma computes_int (i : Int) (line : IR.Line) :
    Computes (.literal (.int i) line) (toString i) (intTree i) := by
  have hpoint (n : Nat) : Pointless (toString n) := fun hpoint => nomatch isDigit_of_mem_toString hpoint
  cases i with
  | ofNat n =>
    refine ⟨hpoint n, ⟨_, _, (by decide : prefixLevel ≤ top), reads_number n⟩, fun env v hv _ => ?_⟩
    rw [intTree, Target.value, numeral_toString]
    exact hv
  | negSucc n =>
    refine ⟨Pointless.append (by decide) (hpoint _), ⟨_, _, Nat.le_refl _, reads_negated (n + 1)⟩,
      fun env v hv _ => ?_⟩
    rw [intTree, Target.value, numeral_toString]
    exact hv

variable {code : String} {t : Target.Expr}

/-- An operand of an operation with a symbol is in parentheses if it is an operation. -/
lemma Computes.enclosed {e : Expr} (h : Computes e code t) :
    ∃ lv, prefixLevel ≤ lv ∧ Reads lv false (enclosed e code) t := by
  obtain ⟨lv, typed, hlv, hread⟩ := h.reads
  unfold Emit.enclosed
  cases hbinary : e.isBinary with
  | true => exact ⟨top, by decide, Reads.paren hread.encloses⟩
  | false =>
    have hlevel : prefixLevel ≤ lv := by
      cases e with
      | binary => cases hbinary
      | _ => exact hlv
    exact ⟨lv, hlevel, hread.typedAs hlevel false⟩

variable {c : Context} {e : Expr}

/-- A sum is not divided, so the left operand of a division binds tightly enough without
parentheses. -/
lemma Computes.left (op : BinOp) (h : Computes e code t) (hform : IsArithmetic c e)
    (hsum : op = .floorDiv → e.isSum = false) : ∃ lv typed, leftLevel (divisionSign op) ≤ lv ∧
      Reads lv typed (if op = .floorDiv then code else Emit.enclosed e code) t := by
  by_cases hfloor : op = .floorDiv
  · obtain ⟨lv, typed, hlv, hread⟩ := h.reads
    rw [if_pos hfloor]
    refine ⟨lv, typed, Nat.le_trans ?_ hlv, hread⟩
    subst hfloor
    have hsum := hsum rfl
    cases hform with
    | @binary op l r line hop hl hr =>
      cases op with
      | mul | floorDiv | mod => exact Nat.le_refl (level .div)
      | add | sub => cases hsum
      | _ => cases hop
    | name | number => exact (by decide : leftLevel .div ≤ prefixLevel)
  · obtain ⟨lv, hlv, hread⟩ := h.enclosed
    rw [if_neg hfloor]
    refine ⟨lv, false, Nat.le_trans ?_ hlv, hread⟩
    exact Nat.le_trans (Target.leftLevel_le_castLevel _) (by decide)

/-- Nothing is divided by an operation, so the right operand of a division binds tightly enough
without parentheses. -/
lemma Computes.right (op : BinOp) (h : Computes e code t)
    (hatom : op = .floorDiv → e.isBinary = false) :
    ∃ lv typed, level (divisionSign op) < lv ∧
      Reads lv typed (if op = .floorDiv then code else Emit.enclosed e code) t := by
  obtain ⟨lv, hlv, hread⟩ := h.enclosed
  have hlevel : level (divisionSign op) < lv :=
    Nat.lt_of_lt_of_le (Target.level_lt_castLevel _) (Nat.le_trans (by decide) hlv)
  refine ⟨lv, false, hlevel, ?_⟩
  by_cases hfloor : op = .floorDiv
  · rwa [Emit.enclosed, hatom hfloor, if_neg Bool.false_ne_true, ← if_pos hfloor (t := code)
      (e := Emit.enclosed e code)] at hread
  · rwa [if_neg hfloor]

lemma intValue_int64 {env : String → Int} {v : Int} (h : e.intValue env = some v) :
    int64? v = some v := by
  have hself {u w : Int} (hu : int64? u = some w) : int64? w = some w := by
    obtain ⟨hrange, rfl⟩ := int64?_eq_some.1 hu
    exact int64?_eq_some.2 ⟨hrange, rfl⟩
  cases e with
  | name n line => exact hself h
  | literal value line =>
    cases value with
    | int i => exact hself h
    | _ => cases h
  | binary op l r line =>
    simp only [IR.Expr.intValue, bind_eq_some_iff] at h
    obtain ⟨x, -, y, -, h⟩ := h
    cases op <;> simp only [sourceApply, ite_none_left_eq_some, reduceCtorEq] at h
    case add | sub | mul => exact hself h
    case floorDiv | mod => exact hself h.2
  | _ => cases h

lemma value_binary {l r : Expr} {line : IR.Line} {tl tr : Target.Expr}
    (hop : isArithmetic op = true)
    (hl : ∀ env v, l.intValue env = some v → l.RoundsAlike env → Target.value env tl = some v)
    (hr : ∀ env v, r.intValue env = some v → r.RoundsAlike env → Target.value env tr = some v)
    (env : String → Int) (v : Int) (hv : (Expr.binary op l r line).intValue env = some v)
    (hround : (Expr.binary op l r line).RoundsAlike env) :
    Target.value env (.binary (divisionSign op) tl tr) = some v := by
  simp only [IR.Expr.intValue, bind_eq_some_iff] at hv
  obtain ⟨x, hx, y, hy, hv⟩ := hv
  obtain ⟨hroundl, hroundr, hrounds⟩ := hround
  rw [Target.value, hl env x hx hroundl, hr env y hy hroundr]
  exact (targetApply_eq_iff hop (intValue_int64 hx) hv).2 (hrounds x hx y hy)

lemma IsArithmetic.searched {c : Context} {e : Expr} (h : IsArithmetic c e) :
    searched e = none := by
  cases h <;> rfl

lemma operation_arithmetic (hop : isArithmetic op = true) {l r : Expr}
    {left right : String} (hl : Pointless left) (hr : Pointless right) :
    ∃ s, Target.signs.get? s = some (divisionSign op) ∧ s ∈ ["+", "-", "*", "/", "%"] ∧
      operation c op l r left right =
        (if op = .floorDiv then left else enclosed l left) ++ " " ++ s ++ " " ++
          (if op = .floorDiv then right else enclosed r right) := by
  have hjoin : joinsPath c op l = false := by cases op <;> first | rfl | cases hop
  rw [operation, hjoin, emptyComparison_of_none hl.lengthReceiver? hr.lengthReceiver?,
    lengthComparison_of_none hl.lengthReceiver? hr.lengthReceiver?]
  cases op with
  | floorDiv =>
    refine ⟨"/", rfl, by decide, ?_⟩
    show left ++ " / " ++ right = left ++ " " ++ "/" ++ " " ++ right
    simp only [String.append_assoc]
    rfl
  | add =>
    rw [wordOperation_of_symbol rfl hl.isOwnedText hr.isOwnedText]
    exact ⟨"+", rfl, by decide, rfl⟩
  | sub => exact ⟨"-", rfl, by decide, rfl⟩
  | mul => exact ⟨"*", rfl, by decide, rfl⟩
  | mod => exact ⟨"%", rfl, by decide, rfl⟩
  | _ => cases hop

/-- What is written for an arithmetic expression computes its value. -/
lemma IsArithmetic.computes (packages : Table Package)
    (h : IsArithmetic c e) (hterms : e.DividesTerms) :
    ∃ code t, Gives c packages (expr e) code ∧ Computes e code t := by
  induction h with
  | @name n line hlocal hnarrow =>
    refine ⟨n, .name n, nameValue_gives hlocal.notNative hnarrow, ?_,
      ⟨_, _, (by decide : prefixLevel ≤ top), reads_name hlocal.usable⟩,
      fun env v hv _ => hv⟩
    intro hpoint
    have hname := (exists_of_isUsableName hlocal.usable).2.1 '.' hpoint
    rw [Target.not_isNameChar_mark '.' (by simp)] at hname
    cases hname
  | number i line => exact ⟨toString i, intTree i, Gives.pure _, computes_int i line⟩
  | @binary op l r line hop hforml hformr ihl ihr =>
    obtain ⟨htermsl, htermsr, hdivides⟩ := hterms
    obtain ⟨left, tl, hgivel, hl⟩ := ihl htermsl
    obtain ⟨right, tr, hgiver, hr⟩ := ihr htermsr
    obtain ⟨s, hs, hsign, hcode⟩ :=
      operation_arithmetic (c := c) (l := l) (r := r) hop hl.pointless hr.pointless
    obtain ⟨lvl, typedl, hlvl, hreadl⟩ := hl.left op hforml fun hop => (hdivides hop).1
    obtain ⟨lvr, typedr, hlvr, hreadr⟩ := hr.right op fun hop => (hdivides hop).2
    have hsigns : ∀ s ∈ ["+", "-", "*", "/", "%"],
        Pointless (" " ++ s ++ " ") ∧ s ≠ "<" ∧ s ≠ "<<" := by decide
    obtain ⟨hpoint, hangle⟩ := hsigns s hsign
    have hread := Reads.binary hreadl hreadr hs hlvl hlvr fun _ => hangle
    refine ⟨_, .binary (divisionSign op) tl tr, binary_gives hforml.searched hgivel hgiver, ?_,
      ⟨_, true, Nat.le_refl _, hcode ▸ hread⟩, value_binary hop hl.value hr.value⟩
    have hside {e : Expr} {code : String} (h : Pointless code) :
        Pointless (if op = .floorDiv then code else Emit.enclosed e code) := by
      split
      · exact h
      · exact h.enclosed e
    rw [hcode]
    simpa only [String.append_assoc] using
      (hside hl.pointless).append (hpoint.append (hside hr.pointless))

/-- Arithmetic keeps its value: what is written for an expression whose divisions stand next to
operands that bind tightly enough has the value of the expression wherever the two ways of rounding
agree. -/
theorem value_arithmetic {em : Emitter} {e : Expr} (h : IsArithmetic em.ctx e)
    (hterms : e.DividesTerms) {env : String → Int} {v : Int} (hv : e.intValue env = some v)
    (hround : e.RoundsAlike env) :
    ∃ code em' t, em.run (expr e) = (.ok code, em') ∧ parse code = some t ∧
      Target.value env t = some v := by
  obtain ⟨code, t, hgive, hcomputes⟩ := h.computes em.resolver.registry.packages hterms
  obtain ⟨em', hrun, -, -⟩ := hgive em rfl rfl
  obtain ⟨lv, typed, -, hread⟩ := hcomputes.reads
  exact ⟨code, em', t, hrun, hread.parse, hcomputes.value env v hv hround⟩

/-- The sum `a * b // c + a % c`. -/
def scaledSum : Expr :=
  .binary .add
    (.binary .floorDiv (.binary .mul (.name "a" none) (.name "b" none) none) (.name "c" none) none)
    (.binary .mod (.name "a" none) (.name "c" none) none) none

def scaledEnv (n : String) : Int :=
  if n = "a" then 8 else if n = "b" then -3 else -2

lemma isArithmetic_name {n : String} (h : n ∈ ["a", "b", "c"]) :
    IsArithmetic {} (.name n none) := by
  have husable : ∀ n ∈ ["a", "b", "c"], Stub.isUsableName n = true := by decide
  exact .name ⟨husable n h, rfl⟩ rfl

theorem value_scaledSum : scaledSum.intValue scaledEnv = some 12 ∧
    ∃ code em' t, Emitter.run {} (expr scaledSum) = (.ok code, em') ∧
      parse code = some t ∧ Target.value scaledEnv t = some 12 := by
  have hname := @isArithmetic_name
  have hform : IsArithmetic {} scaledSum :=
    .binary rfl (.binary rfl (.binary rfl (hname (by simp)) (hname (by simp))) (hname (by simp)))
      (.binary rfl (hname (by simp)) (hname (by simp)))
  have hterms : scaledSum.DividesTerms := by
    simp [scaledSum, IR.Expr.DividesTerms, IR.Expr.isSum, Expr.isBinary]
  have hround : scaledSum.RoundsAlike scaledEnv := by
    simp [scaledSum, IR.Expr.RoundsAlike, RoundsAlike, IR.Expr.intValue, scaledEnv, int64?,
      sourceApply]
  exact ⟨by decide, value_arithmetic hform hterms (by decide) hround⟩

def quotient : Expr :=
  .binary .floorDiv (.name "a" none) (.name "b" none) none

def mixedEnv (n : String) : Int :=
  if n = "a" then -7 else 2

/-- A quotient of integers of different signs is rounded down in the source language, but towards
zero in what is written for it. -/
theorem value_ne_quotient : IsArithmetic {} quotient ∧ quotient.intValue mixedEnv = some (-4) ∧
    Emitter.run {} (expr quotient) = (.ok "a / b", {}) ∧
      ∃ t, parse "a / b" = some t ∧ Target.value mixedEnv t = some (-3) := by
  have husable : Stub.isUsableName "a" = true ∧ Stub.isUsableName "b" = true := by decide
  have hread := (reads_name husable.1).binary (s := "/") (reads_name husable.2) rfl (by decide)
    (by decide) nofun
  exact ⟨.binary rfl (isArithmetic_name (by simp)) (isArithmetic_name (by simp)), by decide, rfl, _,
    hread.parse, by decide⟩

end Emit

end Oxidize
