import Oxidize.Proofs.Grouping.Expressions
import Oxidize.Proofs.Numbers.Arithmetic

/-!
# Comparisons with lengths keep their truth

The rules for lengths look at the written operands. If each operand that ends in a length is one,
only the length of a collection is compared by these rules, and what is written asks for the same
(`truth_comparison`). A variable is converted to an unsigned integer first, so an order between a
length and a negative integer is turned around.
-/

namespace Oxidize

open IR (Expr BinOp)
open Target (Reads top parse)
open List

/-! ## Truth -/

def compares : BinOp → Int → Int → Bool
  | .eq, x, y => x == y
  | .ne, x, y => x != y
  | .lt, x, y => decide (x < y)
  | .le, x, y => decide (x ≤ y)
  | .gt, x, y => decide (x > y)
  | .ge, x, y => decide (x ≥ y)
  | _, _, _ => false

/-- The integer of 64 bits or the length that an expression of the target language stands for. -/
def Target.Expr.count (size : Target.Expr → Nat) (env : String → Int) : Target.Expr → Option Int
  | .name n => int64? (env n)
  | .method e "unwrap" none [] => count size env e
  | .method e "len" none [] => some (size e)
  | .cast e "usize" => (count size env e).map (· % 2 ^ 64)
  | _ => none

def Target.Expr.truth (size : Target.Expr → Nat) (env : String → Int) : Target.Expr → Option Bool
  | .method e "is_empty" none [] => some (size e == 0)
  | .unary .not e => (truth size env e).map not
  | .binary op l r => (count size env l).bind fun x => (count size env r).map (compares op x)
  | _ => none

/-- The integer that an operand of the source language stands for, if it is a length, this one. -/
def IR.Expr.count (length : Nat) (env : String → Int) : Expr → Option Int
  | .name n _ => int64? (env n)
  | .literal (.int i) _ => some i
  | e => (Emit.lengthOf? e).map fun _ => length

/-- A negative integer turns into one that is larger than every length. -/
lemma compares_unsigned {op : BinOp} (hop : Emit.isComparison op = true) {v : Int}
    (hv : int64? v = some v) {n : Nat} (hn : n < 2 ^ 63) :
    (compares op (v % 2 ^ 64) n = compares op v n ↔ 0 ≤ v ∨ op = .eq ∨ op = .ne) ∧
      (compares op n (v % 2 ^ 64) = compares op n v ↔ 0 ≤ v ∨ op = .eq ∨ op = .ne) := by
  obtain ⟨hrange, -⟩ := int64?_eq_some.1 hv
  cases op with
  | eq | ne | lt | le | gt | ge =>
    simp only [compares, reduceCtorEq, or_false, or_true, iff_true, decide_eq_decide, or_self, bne,
      Bool.not_inj_iff, Bool.beq_eq_decide_eq]
    omega
  | _ => cases hop

namespace Emit

variable {c : Context} {op : BinOp} {l r x : Expr} {left right inner : String} {line : IR.Line}

lemma count_of_lengthOf? (hx : lengthOf? l = some x) (n : Nat) (env : String → Int) :
    l.count n env = some (n : Int) := by
  cases l with
  | call => exact congrArg (Option.map fun _ => (n : Int)) hx
  | _ => cases hx

lemma count_of_isInt {i : Int} (h : isInt l i = true) (n : Nat) (env : String → Int) :
    l.count n env = some i := by
  unfold isInt at h
  split at h
  · rw [beq_iff_eq.1 h]
    rfl
  · cases h

variable {empty : Bool} {tl t : Target.Expr}

lemma count_of_renders (hname : l.name?.isSome = true) (hl : Renders l tl)
    (size : Target.Expr → Nat) (env : String → Int) (n : Nat) :
    tl.count size env = l.count n env ∧ ∀ v ∈ l.count n env, int64? v = some v := by
  cases l with
  | name x line =>
    have hself : ∀ v ∈ int64? (env x), int64? v = some v := by
      intro v hv
      obtain ⟨hrange, rfl⟩ := int64?_eq_some.1 hv
      exact int64?_eq_some.2 ⟨hrange, rfl⟩
    cases hl <;> exact ⟨rfl, hself⟩
  | _ => cases hname

/-- Whatever the length of the collection, the condition is true if the comparison is and only then,
unless a negative integer is put in order with the length. -/
def Agrees (op : BinOp) (l r : Expr) (t condition : Target.Expr) : Prop :=
  ∀ (size : Target.Expr → Nat) (env : String → Int), size t < 2 ^ 63 →
    ∀ v ∈ l.count (size t) env, ∀ w ∈ r.count (size t) env,
      (condition.truth size env = some (compares op v w) ↔ 0 ≤ v ∧ 0 ≤ w ∨ op = .eq ∨ op = .ne)

lemma truth_question (size : Target.Expr → Nat) (env : String → Int) (t : Target.Expr)
    (empty : Bool) : (question t empty).truth size env = some ((size t == 0) == empty) := by
  cases empty <;> simp [question, Target.Expr.truth]

/-- A length is compared with zero or one, in one of the orders that ask for something empty or
not. -/
lemma compares_askedLeft (h : askedLeft op (isInt r 0) (isInt r 1) = some empty) (n : Nat)
    (env : String → Int) :
    ∃ w : Nat, r.count n env = some (w : Int) ∧ ((n == 0) == empty) = compares op n w := by
  unfold askedLeft at h
  cases hzero : isInt r 0 with
  | true =>
    rw [hzero, if_pos rfl] at h
    refine ⟨0, count_of_isInt hzero n env, ?_⟩
    cases op <;> cases h <;> cases n <;> simp [compares] <;> omega
  | false =>
    rw [hzero, if_neg Bool.false_ne_true, Option.ite_none_right_eq_some] at h
    obtain ⟨hasked, heq⟩ := h
    cases heq
    obtain ⟨hone, hge⟩ := Bool.and_eq_true_iff.1 hasked
    refine ⟨1, count_of_isInt hone n env, ?_⟩
    cases op with
    | ge => cases n <;> simp [compares]
    | _ => cases hge

lemma compares_askedRight (h : askedRight op (isInt l 0) = some empty) (n : Nat)
    (env : String → Int) : l.count n env = some 0 ∧ ((n == 0) == empty) = compares op 0 n := by
  unfold askedRight at h
  cases hzero : isInt l 0 with
  | true =>
    rw [hzero, if_pos rfl] at h
    refine ⟨count_of_isInt hzero n env, ?_⟩
    cases op <;> cases h <;> cases n <;> simp [compares]; omega
  | false =>
    rw [hzero] at h
    cases h

lemma agrees_question (h : emptiness? op l r = some (x, empty)) (t : Target.Expr) :
    (lengthOf? l = some x ∨ lengthOf? r = some x) ∧ Agrees op l r t (question t empty) := by
  rcases (Option.orElse_eq_some _ _ _).1 h with h | ⟨-, h⟩
  · obtain ⟨y, hy, h⟩ := Option.bind_eq_some_iff.1 h
    obtain ⟨_, hasked, heq⟩ := Option.map_eq_some_iff.1 h
    cases heq
    refine ⟨.inl hy, fun size env hsize v hv w hw => ?_⟩
    rw [count_of_lengthOf? hy] at hv
    obtain ⟨w', hw', htruth⟩ := compares_askedLeft hasked (size t) env
    cases hv
    cases hw'.symm.trans hw
    simp [truth_question, htruth]
  · obtain ⟨y, hy, h⟩ := Option.bind_eq_some_iff.1 h
    obtain ⟨_, hasked, heq⟩ := Option.map_eq_some_iff.1 h
    cases heq
    refine ⟨.inr hy, fun size env hsize v hv w hw => ?_⟩
    rw [count_of_lengthOf? hy] at hw
    obtain ⟨hv', htruth⟩ := compares_askedRight hasked (size t) env
    cases hw
    cases hv'.symm.trans hv
    simp [truth_question, htruth]

lemma agrees_lengthRight (hop : isComparison op = true) (hname : l.name?.isSome = true)
    (hl : Renders l tl) (hx : lengthOf? r = some x) :
    Agrees op l r t (.binary op (.cast tl "usize") (.method t "len" none [])) := by
  intro size env hsize v hv w hw
  obtain ⟨hcount, hself⟩ := count_of_renders hname hl size env (size t)
  rw [count_of_lengthOf? hx] at hw
  cases hw
  have hunsigned := (compares_unsigned hop (hself v hv) hsize).1
  simpa [Target.Expr.truth, Target.Expr.count, hcount, Option.mem_def.1 hv] using hunsigned

lemma agrees_lengthLeft {tr : Target.Expr} (hop : isComparison op = true)
    (hname : r.name?.isSome = true) (hr : Renders r tr) (hx : lengthOf? l = some x) :
    Agrees op l r t (.binary op (.method t "len" none []) (.cast tr "usize")) := by
  intro size env hsize v hv w hw
  obtain ⟨hcount, hself⟩ := count_of_renders hname hr size env (size t)
  rw [count_of_lengthOf? hx] at hv
  cases hv
  have hunsigned := (compares_unsigned hop (hself w hw) hsize).2
  simpa [Target.Expr.truth, Target.Expr.count, hcount, Option.mem_def.1 hw] using hunsigned

/-- A comparison whose operands bind tightly enough is either written with its sign, or the rules
for lengths apply. Then an operand is the length of a collection, and what is written is read as a
condition on this collection that agrees with the comparison. -/
theorem truth_comparison {e : Emitter} (hop : isComparison op = true)
    (hform : Throughout (Templated e.ctx e.resolver.registry.packages) (.binary op l r line))
    (hfits : Throughout (Fits e.ctx) (.binary op l r line)) :
    ∃ left right code e', e.run (expr (.binary op l r line)) = (.ok code, e') ∧
      (∃ e₁ e₂, e.run (expr l) = (.ok left, e₁) ∧ e₁.run (expr r) = (.ok right, e₂)) ∧
      (code = symbolOperation e.ctx op l r left right ∨
        ∃ x t condition, (lengthOf? l = some x ∨ lengthOf? r = some x) ∧ Renders x t ∧
          parse code = some condition ∧ Agrees op l r t condition) := by
  obtain ⟨⟨hword, hfit⟩, hoperands⟩ := hform.and hfits
  obtain ⟨left, hgivel, hl⟩ := exists_spelled (hoperands l (by simp [templateOperands]))
  obtain ⟨right, hgiver, hr⟩ := exists_spelled (hoperands r (by simp [templateOperands]))
  obtain ⟨⟨hforml, -⟩, -⟩ := hoperands l (by simp [templateOperands])
  obtain ⟨hjoin, hsymbol, s, hs⟩ : joinsPath e.ctx op l = false ∧ FitsSymbol e.ctx op l r ∧
      ∃ s, symbol? op = some s := by
    cases op with
    | eq | ne | lt | le | gt | ge => exact ⟨rfl, hfit rfl, _, rfl⟩
    | _ => cases hop
  have hgive : Gives _ _ (expr (.binary op l r line)) _ := binary_gives hforml.of_form.1 hgivel hgiver
  obtain ⟨e', hrun, -, -⟩ := hgive e rfl rfl
  obtain ⟨e₁, hrunl, hctx, hpackages⟩ := hgivel e rfl rfl
  obtain ⟨e₂, hrunr, -, -⟩ := hgiver e₁ hctx hpackages
  refine ⟨left, right, _, e', hrun, ⟨e₁, e₂, hrunl, hrunr⟩, ?_⟩
  rw [operation, hjoin, if_neg Bool.false_ne_true, wordOperation_of_symbol (by simp [hs]) hl.owned hr.owned]
  have hlevel := Target.level_lt_castLevel op
  have hleft := Target.leftLevel_le_castLevel op
  have htop : Target.castLevel < top := by decide
  rcases hl.emptyComparison hr hsymbol with ⟨-, hcode⟩ | ⟨x, empty, inner, hempty, hcode, hinner⟩
  · have hlength := hl.lengthComparison hr hsymbol hop
    rw [hs] at hlength
    rw [hcode]
    rcases hlength with ⟨x, inner, hname, hx, hinner, hcode⟩ | ⟨x, inner, hname, hx, hinner, hcode⟩ |
      ⟨hcode, -⟩
    · obtain ⟨tl, hrenderl, -, hreadl⟩ := hl.converted hname
      obtain ⟨t, hrender, hlen, -⟩ := hinner.reads_length
      have hread := hreadl.binary hlen (signs_of_symbol hs) (by omega) (by omega) (by simp)
      refine .inr ⟨x, t, _, .inr hx, hrender, ?_, agrees_lengthRight hop hname hrenderl hx⟩
      rw [hcode, Option.getD_some, lengthRight_text]
      exact hread.parse
    · obtain ⟨tr, hrenderr, -, hreadr⟩ := hr.converted hname
      obtain ⟨t, hrender, hlen, -⟩ := hinner.reads_length
      have hread := hlen.binary hreadr (signs_of_symbol hs) (by omega) (by omega) (by simp)
      refine .inr ⟨x, t, _, .inl hx, hrender, ?_, agrees_lengthLeft hop hname hrenderr hx⟩
      rw [hcode, Option.getD_some, lengthLeft_text]
      exact hread.parse
    · rw [hcode]
      exact .inl rfl
  · obtain ⟨t, hrender, -, hquestion⟩ := hinner.reads_length
    obtain ⟨hlength, hagrees⟩ := agrees_question hempty t
    rw [hcode]
    exact .inr ⟨x, t, _, hlength, hrender, (hquestion empty false).parse, hagrees⟩

/-- The comparison `i < len(xs)`. -/
def belowLength : Expr :=
  .binary .lt (.name "i" none) (.call (.name "len" none) [.name "xs" none] [] none) none

theorem truth_comparison_belowLength :
    Throughout (Templated {} []) belowLength ∧ Throughout (Fits {}) belowLength ∧
      ∃ code em', Emitter.run {} (expr belowLength) = (.ok code, em') := by
  have husable : ∀ n ∈ ["i", "xs"], Stub.isUsableName n = true := by decide
  obtain ⟨hformi, hfitsi⟩ := throughout_name (husable "i" (by simp)) none
  obtain ⟨hformxs, hfitsxs⟩ := throughout_name (husable "xs" (by simp)) none
  have hform : Throughout (Templated {} []) belowLength := by
    refine .intro ⟨by simp, by simp⟩ (forall_mem_cons.2 ⟨hformi, forall_mem_singleton.2 ?_⟩)
    exact .intro ⟨by simp, rfl, rfl, rfl, rfl⟩ (forall_mem_singleton.2 hformxs)
  have hfits : Throughout (Fits {}) belowLength := by
    refine .intro (fun _ => ⟨by decide, by decide, by decide, by decide, by decide⟩)
      (forall_mem_cons.2 ⟨hfitsi, forall_mem_singleton.2 ?_⟩)
    exact .intro (.inr (Nat.le_refl _)) (forall_mem_singleton.2 hfitsxs)
  obtain ⟨-, -, code, em', hrun, -⟩ := truth_comparison (e := {}) rfl hform hfits
  exact ⟨hform, hfits, code, em', hrun⟩

/-- The sum `a + len(xs)`. -/
def lengthSum : Expr :=
  .binary .add (.name "a" none) (.call (.name "len" none) [.name "xs" none] [] none) none

/-- A sum that ends in a length is taken for one, and no negative index is below a length. -/
theorem lengths_misread :
    lengthOf? lengthSum = none ∧
      Emitter.run {} (expr (.binary .gt lengthSum (.literal (.int 0) none) none)) =
        (.ok "!a + xs.is_empty()", {}) ∧
      Emitter.run {} (expr belowLength) = (.ok "(i as usize) < xs.len()", {}) ∧
      ∃ condition, parse "(i as usize) < xs.len()" = some condition ∧
        condition.truth (fun _ => 3) (fun _ => -1) = some false ∧ compares .lt (-1) 3 = true := by
  have husable : ∀ n ∈ ["i", "xs"], Stub.isUsableName n = true := by decide
  have hcast : Reads Target.castLevel true ("i" ++ " as " ++ "usize") (.cast (.name "i") "usize") :=
    (reads_name (husable "i" (by simp))).cast (by decide) (by simp [intTypes])
  have hlen : Reads top false ("xs" ++ ".len()") (.method (.name "xs") "len" none []) :=
    (reads_name (husable "xs" (by simp))).method (Nat.le_refl _) (by simp [Target.bareCalls])
  have hread := (Reads.paren hcast.encloses).binary (s := "<") hlen rfl (by decide) (by decide) (by simp)
  exact ⟨rfl, rfl, rfl, _, hread.parse, by decide, by decide⟩

end Emit

end Oxidize
