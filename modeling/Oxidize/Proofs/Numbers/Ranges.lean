import Oxidize.Proofs.Grouping.Spelled
import Oxidize.Proofs.Numbers.Arithmetic

/-!
# Ranges keep their integers

A range is written with two points between its bounds, and a step is converted to an unsigned number
and given to `step_by`, which only goes upwards. What is written for a range of integers is read
back and run: it yields the integers of the source exactly if the step is positive or both bounds
are the same (`yields_range_iff`).
-/

namespace Oxidize

open IR (Expr)
open List

/-! ## Ranges of the target language -/

namespace Target

structure Range where
  start : Expr
  stop : Expr
  /-- The argument of `step_by`, if it is called. -/
  step? : Option Expr

def bounds (ts : List Token) : Option (Expr × Expr × List Token) := do
  let (start, rest) ← expr 0 ts
  match rest with
  | .sign ".." :: rest => do
    let (stop, rest) ← expr 0 rest
    some (start, stop, rest)
  | _ => none

/-- Read a range in parentheses and a call of `step_by` after it. -/
def stepped (ts : List Token) : Option Range :=
  match ts with
  | .sign "(" :: ts => do
    let (start, stop, rest) ← bounds ts
    match rest with
    | .sign ")" :: .sign "." :: .word "step_by" :: .sign "(" :: rest => do
      let (step, rest) ← expr 0 rest
      if rest = [.sign ")"] then some ⟨start, stop, some step⟩ else none
    | _ => none
  | _ => none

def parseRange (text : String) : Option Range :=
  match bounds (tokens text) with
  | some (start, stop, []) => some ⟨start, stop, none⟩
  | _ => stepped (tokens text)

/-- The value of an integer that is converted to an unsigned number of 64 bits. There is none for a
number with a sign in front of it: it would have to be unsigned itself. -/
def unsigned? (env : String → Int) : Expr → Option Nat
  | .cast (.unary .neg (.number _)) "usize" => none
  | .cast e "usize" => (value env e).map fun v => (v % 2 ^ 64).toNat
  | _ => none

/-- The integers from `start` up to `stop` at every `n`-th place. -/
def ascending (start stop : Int) (n : Nat) : List Int :=
  ((List.range (stop - start).toNat).filter (n ∣ ·)).map fun k : Nat => start + k

/-- The integers that a range yields, if it can be run. There is no step of zero. -/
def Range.yields (env : String → Int) (r : Range) : Option (List Int) := do
  let start ← value env r.start
  let stop ← value env r.stop
  match r.step? with
  | none => some (ascending start stop 1)
  | some step => do
    let n ← unsigned? env step
    if n = 0 then none else some (ascending start stop n)

/-! ## Reading -/

variable {lv : Nat} {typed : Bool} {ts : List Token} {e : Expr}

lemma Phrase.expr_points (h : Phrase lv typed ts e) (rest : List Token) :
    expr 0 (ts ++ .sign ".." :: rest) = some (e, .sign ".." :: rest) := by
  have hsign : signs.get? ".." = none := by decide
  have hends : EndsPhrase lv typed (.sign ".." :: rest) := by simp [EndsPhrase, hsign]
  obtain ⟨reached, -, heq⟩ := h _ hends 0 (Nat.zero_le lv)
  rw [heq, more.eq_def]
  simp [hsign]

variable {lv' : Nat} {typed' : Bool} {f : Expr} {start stop : String}

lemma bounds_points {us : List Token} (he : Phrase lv typed ts e) (hf : Phrase lv' typed' us f)
    {rest : List Token} (hrest : Closes rest) :
    bounds (ts ++ .sign ".." :: (us ++ rest)) = some (e, f, rest) := by
  simp [bounds, he.expr_points, hf.expr_zero rest hrest]

lemma tokens_points (he : Reads lv typed start e) (hf : Reads lv' typed' stop f) :
    tokens (start ++ ".." ++ stop) = tokens start ++ .sign ".." :: tokens stop := by
  obtain ⟨htokens, hparts, hlast⟩ := sign_apart ".." (by simp)
  rw [String.append_assoc, tokens_before he.ends (hparts.append _), tokens_after hf.starts hlast, htokens]
  rfl

lemma Reads.parseRange {lv lv' : Nat} {typed typed' : Bool} {e : Expr}
    (he : Reads lv typed start e) (hf : Reads lv' typed' stop f) :
    parseRange (start ++ ".." ++ stop) = some ⟨e, f, none⟩ := by
  have hstart := he.form.phrase (Nat.zero_le lv) (Nat.zero_le castLevel)
  have hstop := hf.form.phrase (Nat.zero_le lv') (Nat.zero_le castLevel)
  have hbounds : bounds (tokens start ++ .sign ".." :: (tokens stop ++ [])) = some (e, f, []) :=
    bounds_points hstart hstop trivial
  rw [append_nil] at hbounds
  rw [Target.parseRange, tokens_points he hf, hbounds]

lemma bounds_paren (h : Phrase lv typed ts e)
    (rest : List Token) : bounds (.sign "(" :: (ts ++ .sign ".." :: rest)) = none := by
  have hoperand : operand (.sign "(" :: (ts ++ .sign ".." :: rest)) = none := by
    rw [operand.eq_def]
    simp [h.expr_points]
  rw [bounds, expr.eq_def, hoperand]
  rfl

lemma Reads.parseStepped {step : String} {lv'' : Nat} {typed'' : Bool} {g : Expr}
    (he : Reads lv typed start e) (hf : Reads lv' typed' stop f) (hg : Reads lv'' typed'' step g)
    (hlv : castLevel ≤ lv'') :
    Target.parseRange ("(" ++ start ++ ".." ++ stop ++ ").step_by(" ++ step ++ " as usize)") =
      some ⟨e, f, some (.cast g "usize")⟩ := by
  have hcast : Reads castLevel true (step ++ " as " ++ "usize") (.cast g "usize") :=
    hg.cast hlv (by simp [Emit.intTypes])
  have hcall : tokens ").step_by(" = [.sign ")", .sign ".", .word "step_by", .sign "("] ∧
      Parts ").step_by(" ∧ ∀ c ∈ ").step_by(".toList.getLast?, c = '(' ∨ c = '[' := by
    decide
  have htext : "(" ++ start ++ ".." ++ stop ++ ").step_by(" ++ step ++ " as usize)" =
      "(" ++ ((start ++ ".." ++ stop) ++ (").step_by(" ++ ((step ++ " as " ++ "usize") ++ ")"))) := by
    have hend : " as usize)" = " as " ++ "usize" ++ ")" := by decide
    simp only [hend, String.append_assoc]
  have htokens : tokens ("(" ++ start ++ ".." ++ stop ++ ").step_by(" ++ step ++ " as usize)") =
      .sign "(" :: (tokens start ++ .sign ".." :: (tokens stop ++ (.sign ")" :: .sign "." ::
        .word "step_by" :: .sign "(" :: (tokens (step ++ " as " ++ "usize") ++ [.sign ")"])))) := by
    rw [htext, tokens_open (by simp), tokens_before (hf.ends.append _) (hcall.2.1.append _),
      tokens_points he hf, tokens_inside hcall.2.2, tokens_close hcast.ends (by simp), hcall.1]
    simp
  have hstart := he.form.phrase (Nat.zero_le lv) (Nat.zero_le castLevel)
  have hstop := hf.form.phrase (Nat.zero_le lv') (Nat.zero_le castLevel)
  have hstep := hcast.form.phrase (Nat.zero_le castLevel) (Nat.zero_le castLevel)
  have hcloses : ∀ rest, Closes (.sign ")" :: rest) := fun _ => .inl rfl
  rw [Target.parseRange, htokens, bounds_paren hstart]
  simp [stepped, bounds_points hstart hstop (hcloses _), hstep.expr_zero _ (hcloses [])]

end Target

/-! ## Integers of a range -/

def rangeLength (start stop step : Int) : Nat :=
  if 0 < step then ((stop - start + step - 1) / step).toNat
  else ((start - stop - step - 1) / -step).toNat

def sourceRange (start stop step : Int) : List Int :=
  (List.range (rangeLength start stop step)).map fun k : Nat => start + step * k

/-- The bounds and the step of a range, which starts at zero and has a step of one if nothing else
is said. -/
def rangeArguments : List Int → Option (Int × Int × Int)
  | [stop] => some (0, stop, 1)
  | [start, stop] => some (start, stop, 1)
  | [start, stop, step] => some (start, stop, step)
  | _ => none

/-- The multiples of `n` below a bound are the first multiples. -/
lemma filter_dvd_range {n : Nat} (hn : 0 < n) (m : Nat) :
    (List.range m).filter (n ∣ ·) = (List.range ((m + n - 1) / n)).map (n * ·) := by
  induction m with
  | zero => simp [Nat.div_eq_of_lt (Nat.sub_lt hn Nat.one_pos)]
  | succ m ih =>
    have hdiv : (m + 1 + n - 1) / n = (m + n - 1) / n + if n ∣ m then 1 else 0 := by
      have hsucc : m + 1 + n - 1 = m + n - 1 + 1 := by omega
      have hdvd : n ∣ m + n - 1 + 1 ↔ n ∣ m := by
        rw [Nat.sub_add_cancel (by omega)]
        exact Nat.dvd_add_left (Nat.dvd_refl n)
      rw [hsucc, Nat.succ_div]
      simp only [hdvd]
    rw [range_succ, filter_append, ih, hdiv]
    by_cases hm : n ∣ m
    · obtain ⟨k, rfl⟩ := hm
      have hk : (n * k + n - 1) / n = k := by
        rw [Nat.add_sub_assoc hn, Nat.mul_add_div hn, Nat.div_eq_of_lt (Nat.sub_lt hn Nat.one_pos),
          Nat.add_zero]
      simp [hk, range_succ]
    · simp [hm]

variable {start stop : Int}

lemma ascending_eq_sourceRange {n : Nat} (hn : 0 < n) :
    Target.ascending start stop n = sourceRange start stop n := by
  have hlength : rangeLength start stop n = ((stop - start).toNat + n - 1) / n := by
    have hpos : (0 : Int) < n := Int.natCast_pos.2 hn
    rw [rangeLength, if_pos hpos]
    by_cases hd : 0 ≤ stop - start
    · obtain ⟨m, hm⟩ := Int.eq_ofNat_of_zero_le hd
      have hcast : (m : Int) + n - 1 = ((m + n - 1 : Nat) : Int) := by omega
      rw [hm, hcast, ← Int.natCast_ediv, Int.toNat_natCast, Int.toNat_natCast]
    · have hless : (stop - start + n - 1) / n < 1 := Int.ediv_lt_of_lt_mul hpos (by omega)
      have hzero : (stop - start).toNat = 0 := by omega
      rw [hzero, Nat.div_eq_of_lt (by omega)]
      omega
  unfold Target.ascending sourceRange
  rw [filter_dvd_range hn, hlength, map_map]
  exact map_congr_left fun k _ => by simp

variable {step : Int}

/-- A step downwards gives the integers of the source only if there are none because the bounds are
the same. -/
lemma ascending_eq_iff {n : Nat} (hstep : step < 0) :
    Target.ascending start stop n = sourceRange start stop step ↔ start = stop := by
  have hneg : (0 : Int) < -step := by omega
  have hlength : rangeLength start stop step = ((start - stop - step - 1) / -step).toNat := by
    rw [rangeLength, if_neg (by omega)]
  have hempty : start ≤ stop → sourceRange start stop step = [] := by
    intro hle
    have hless : (start - stop - step - 1) / -step < 1 := Int.ediv_lt_of_lt_mul hneg (by omega)
    have hzero : rangeLength start stop step = 0 := by omega
    rw [sourceRange, hzero, range_zero, map_nil]
  rcases Int.lt_trichotomy start stop with hlt | rfl | hgt
  · -- only the written range begins with its first bound
    refine iff_of_false (fun heq => ?_) (by omega)
    have hfirst : start ∈ Target.ascending start stop n :=
      mem_map.2 ⟨0, mem_filter.2 ⟨mem_range.2 (by omega), by simp⟩, by simp⟩
    rw [heq, hempty (Int.le_of_lt hlt)] at hfirst
    cases hfirst
  · refine iff_of_true ?_ rfl
    rw [hempty (Int.le_refl _), Target.ascending, Int.sub_self]
    rfl
  · -- only the range of the source begins with its first bound
    refine iff_of_false (fun heq => ?_) (by omega)
    have hmore : 1 ≤ (start - stop - step - 1) / -step := Int.le_ediv_of_mul_le hneg (by omega)
    have hfirst : start ∈ sourceRange start stop step :=
      mem_map.2 ⟨0, mem_range.2 (by omega), by simp⟩
    have hzero : (stop - start).toNat = 0 := by omega
    rw [← heq, Target.ascending, hzero] at hfirst
    cases hfirst

/-! ## Written ranges -/

namespace Emit

open Target (Reads unsigned? castLevel)

def isSigned : Expr → Bool
  | .literal (.int i) _ => decide (i < 0)
  | .unary _ _ _ => true
  | _ => false

/-- The expression is an integer or a variable, and has this value. -/
inductive IsBound (c : Context) (env : String → Int) : Expr → Int → Prop
  | name {n : String} {line : IR.Line} {v : Int} (hlocal : IsLocal c n)
    (hnarrow : c.narrowed.contains n = false) (hv : int64? (env n) = some v) :
    IsBound c env (.name n line) v
  | number {i v : Int} (line : IR.Line) (hv : int64? i = some v) :
    IsBound c env (.literal (.int i) line) v
  | negated {n : Nat} {v : Int} (numberLine line : IR.Line) (hv : int64? (-n) = some v) :
    IsBound c env (.unary .neg (.literal (.int n) numberLine) line) v

variable {env : String → Int} {v : Int} {e : Expr}

lemma unsigned?_cast {t : Target.Expr} (ht : ∀ digits, t ≠ .unary .neg (.number digits))
    (hv : Target.value env t = some v) :
    unsigned? env (.cast t "usize") = some (v % 2 ^ 64).toNat := by
  rw [unsigned?, hv]
  · rfl
  · exact ht

variable {c : Context}

lemma IsBound.reads (h : IsBound c env e v) (packages : Table Package) :
    ∃ code t lv, Gives c packages (expr e) code ∧ castLevel ≤ lv ∧ Reads lv false code t ∧
      Target.value env t = some v ∧ unsigned? env (.cast t "usize") =
        if isSigned e then none else some (v % 2 ^ 64).toNat := by
  have hcast : castLevel ≤ Target.prefixLevel ∧ castLevel ≤ Target.top := by decide
  cases h with
  | @name n line v hlocal hnarrow hv =>
    refine ⟨n, .name n, _, nameValue_gives hlocal.notNative hnarrow, hcast.2,
      reads_name hlocal.usable, hv, ?_⟩
    exact unsigned?_cast (by simp) hv
  | @number i v line hv =>
    cases i with
    | ofNat n =>
      have hvalue : Target.value env (.number (toString n)) = some v := by
        rw [Target.value, numeral_toString]
        exact hv
      refine ⟨_, .number (toString n), _, Gives.pure _, hcast.2, reads_number n, hvalue, ?_⟩
      rw [if_neg (by simp [isSigned])]
      exact unsigned?_cast (by simp) hvalue
    | negSucc n =>
      refine ⟨_, .unary .neg (.number (toString (n + 1))), _, Gives.pure _, hcast.1,
        reads_negated (n + 1), ?_, (if_pos (decide_eq_true (Int.negSucc_lt_zero n))).symm⟩
      rw [Target.value, numeral_toString]
      exact hv
  | @negated n v numberLine line hv =>
    refine ⟨_, .unary .neg (.number (toString n)), _, (Gives.pure _).bind (Gives.pure _), hcast.1,
      reads_negated n, ?_, rfl⟩
    rw [Target.value, numeral_toString]
    exact hv

lemma IsBound.int64 {c : Context} {env : String → Int} (h : IsBound c env e v) :
    -2 ^ 63 ≤ v ∧ v < 2 ^ 63 := by
  obtain ⟨u, hu⟩ : ∃ u, int64? u = some v := by
    cases h with
    | name _ _ hv | number _ hv | negated _ _ hv => exact ⟨_, hv⟩
  obtain ⟨hrange, rfl⟩ := int64?_eq_some.1 hu
  exact hrange

lemma IsBound.nonpos (h : IsBound c env e v) (hsigned : isSigned e = true) : v ≤ 0 := by
  cases h with
  | name => cases hsigned
  | number _ hv =>
    have hneg := of_decide_eq_true hsigned
    obtain ⟨-, rfl⟩ := int64?_eq_some.1 hv
    omega
  | negated _ _ hv =>
    obtain ⟨-, rfl⟩ := int64?_eq_some.1 hv
    omega

/-- A range with a step yields the integers of the source exactly if the step is positive, or if
there are none and the step can be converted. -/
lemma yields_stepped {e f g : Target.Expr} {signed : Bool}
    (he : Target.value env e = some start) (hf : Target.value env f = some stop)
    (hg : unsigned? env g = if signed then none else some (step % 2 ^ 64).toNat)
    (hrange : -2 ^ 63 ≤ step ∧ step < 2 ^ 63) (hstep : step ≠ 0)
    (hsigned : signed = true → step ≤ 0) :
    Target.Range.yields env ⟨e, f, some g⟩ = some (sourceRange start stop step) ↔
      0 < step ∨ start = stop ∧ signed = false := by
  cases signed with
  | true =>
    have hneg := hsigned rfl
    simp [Target.Range.yields, he, hf, hg]
    omega
  | false =>
    have hyields : Target.Range.yields env ⟨e, f, some g⟩ =
        some (Target.ascending start stop (step % 2 ^ 64).toNat) := by
      have hpos : 0 < step % 2 ^ 64 := by omega
      simp only [Target.Range.yields, he, hf, hg]
      simpa using hpos
    rw [hyields, Option.some_inj]
    rcases Int.lt_or_gt_of_ne hstep with hneg | hpos
    · rw [ascending_eq_iff hneg]
      simp
      omega
    · have hcast : ((step % 2 ^ 64).toNat : Int) = step := by omega
      refine iff_of_true ?_ (.inl hpos)
      rw [ascending_eq_sourceRange (by omega), hcast]

/-- A written range yields the integers of the source exactly if it goes upwards, or if its bounds
are the same and the step is no number with a sign. -/
theorem yields_range_iff {em : Emitter} {env : String → Int} (hown : IsOwn em.ctx "range")
    {args : List Expr} {values : List Int} (hargs : List.Forall₂ (IsBound em.ctx env) args values)
    {start stop step : Int} (hvalues : rangeArguments values = some (start, stop, step))
    (hstep : step ≠ 0) (nameLine line : IR.Line) :
    ∃ code em' r, em.run (expr (.call (.name "range" nameLine) args [] line)) = (.ok code, em') ∧
      Target.parseRange code = some r ∧
      (r.yields env = some (sourceRange start stop step) ↔
        0 < step ∨ start = stop ∧ ∀ e ∈ args[2]?, isSigned e = false) := by
  have hrun {codes : List String} {text : String}
      (hcodes : Gives em.ctx em.resolver.registry.packages (exprs args) codes)
      (htext : rangeCall codes = some text) :
      ∃ em', em.run (expr (.call (.name "range" nameLine) args [] line)) = (.ok text, em') := by
    have hbuiltin : Gives em.ctx em.resolver.registry.packages (builtinCall "range" args codes)
        (some text) := htext ▸ Gives.pure _
    obtain ⟨em', hrun, -, -⟩ := builtin_gives hown rfl hcodes hbuiltin nameLine line em rfl rfl
    exact ⟨em', hrun⟩
  have hone {e f : Target.Expr} {a b : Int} (he : Target.value env e = some a)
      (hf : Target.value env f = some b) :
      Target.Range.yields env ⟨e, f, none⟩ = some (sourceRange a b 1) := by
    simp [Target.Range.yields, he, hf, ascending_eq_sourceRange Nat.one_pos]
  rcases hargs with _ | ⟨hx, hrest⟩
  · cases hvalues
  obtain ⟨code, t, lv, hgive, -, hread, hvalue, -⟩ := hx.reads em.resolver.registry.packages
  rcases hrest with _ | ⟨hy, hrest⟩
  · cases hvalues
    obtain ⟨em', hrun⟩ := hrun (exprs_gives hgive (Gives.pure [])) rfl
    have hzero : Target.value env (.number (toString 0)) = some 0 := by
      rw [Target.value, numeral_toString]
      rfl
    exact ⟨_, em', _, hrun, (reads_number 0).parseRange hread,
      iff_of_true (hone hzero hvalue) (.inl Int.one_pos)⟩
  obtain ⟨code', t', lv', hgive', -, hread', hvalue', -⟩ := hy.reads em.resolver.registry.packages
  rcases hrest with _ | ⟨hz, hrest⟩
  · cases hvalues
    obtain ⟨em', hrun⟩ := hrun (exprs_gives hgive (exprs_gives hgive' (Gives.pure []))) rfl
    exact ⟨_, em', _, hrun, hread.parseRange hread',
      iff_of_true (hone hvalue hvalue') (.inl Int.one_pos)⟩
  obtain ⟨code'', t'', lv'', hgive'', hlv, hread'', hvalue'', hunsigned⟩ :=
    hz.reads em.resolver.registry.packages
  rcases hrest with _ | ⟨-, hrest⟩
  · cases hvalues
    obtain ⟨em', hrun⟩ := hrun
      (exprs_gives hgive (exprs_gives hgive' (exprs_gives hgive'' (Gives.pure [])))) rfl
    refine ⟨_, em', _, hrun, hread.parseStepped hread' hread'' hlv, ?_⟩
    rw [yields_stepped hvalue hvalue' hunsigned hz.int64 hstep hz.nonpos]
    simp
  · cases hvalues

def steppedRange (step : Int) : Expr :=
  .call (.name "range" none) [.literal (.int 1) none, .name "b" none, .literal (.int step) none] [] none

lemma isBound_steppedRange (h : int64? step = some step) : List.Forall₂ (IsBound {} fun _ => 6)
      [.literal (.int 1) none, .name "b" none, .literal (.int step) none] [1, 6, step] := by
  have husable : Stub.isUsableName "b" = true := by decide
  exact .cons (.number none rfl) (.cons (.name ⟨husable, rfl⟩ rfl rfl) (.cons (.number none h) .nil))

theorem yields_range_odd : sourceRange 1 6 2 = [1, 3, 5] ∧
    ∃ code em' r, Emitter.run {} (expr (steppedRange 2)) = (.ok code, em') ∧
      Target.parseRange code = some r ∧ r.yields (fun _ => 6) = some [1, 3, 5] := by
  have hodd : sourceRange 1 6 2 = [1, 3, 5] := by decide
  have hown : IsOwn ({} : Emitter).ctx "range" := ⟨rfl, rfl, rfl, rfl⟩
  have hbounds : int64? 2 = some 2 := rfl
  obtain ⟨code, em', r, hrun, hparse, hyields⟩ :=
    yields_range_iff hown (isBound_steppedRange hbounds) rfl (by decide) none none
  exact ⟨hodd, code, em', r, hrun, hparse, hodd ▸ hyields.2 (.inl (by decide))⟩

def countdown : Expr :=
  .call (.name "range" none)
    [.literal (.int 10) none, .literal (.int 0) none, .literal (.int (-1)) none] [] none

/-- What is written for a range that goes downwards has no meaning: its step is a negative number
that is converted to an unsigned one. -/
theorem not_yields_countdown : sourceRange 10 0 (-1) = [10, 9, 8, 7, 6, 5, 4, 3, 2, 1] ∧
    Emitter.run {} (expr countdown) = (.ok "(10..0).step_by(-1 as usize)", {}) ∧
    ∃ r, Target.parseRange "(10..0).step_by(-1 as usize)" = some r ∧
      ∀ env, r.yields env = none := by
  have hread := (reads_number 10).parseStepped (reads_number 0) (reads_negated 1) (by decide)
  refine ⟨by decide, rfl, _, hread, fun env => ?_⟩
  simp [Target.Range.yields, Target.unsigned?]

end Emit

end Oxidize
