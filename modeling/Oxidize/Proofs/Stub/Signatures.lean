import Mathlib.Data.List.Induction
import Mathlib.Data.List.Infix
import Oxidize.Proofs.Project.Selection
import Oxidize.Stub.Mappings

/-!
# Signatures in stubs

Whatever text is given as a Rust type, well formed or not, its hint has no angle bracket and no pair
of colons (`hint_hasNoSyntax`). A text is taken over as its own hint only if it has none: one with a
bracket is given up, and one with a pair of colons but no bracket goes on behind its last pair.

Parameters that share a name are numbered from the second on. The numbers of one name are distinct,
but a numbered name may be that of another parameter. Two parameters get one name in no other way
(`paramNames_nodup_iff`): if two numbered names are equal, one of the names without the numbers is
the other one with a number, and this number begins the other one's and so is not larger.
-/

namespace Oxidize.Stub

/-! ## Hints of types -/

open Text Text.Nesting

def syntaxMarks : List String := ["<", ">", "::"]

/-- A text without angle brackets and without pairs of colons. -/
def HasNoSyntax (cs : List Char) : Prop :=
  ∀ mark ∈ syntaxMarks, ¬ mark.toList <:+: cs

instance (cs : List Char) : Decidable (HasNoSyntax cs) :=
  inferInstanceAs (Decidable (∀ mark ∈ syntaxMarks, _))

lemma hasNoSyntax_iff {s : String} :
    HasNoSyntax s.toList ↔ ∀ mark ∈ syntaxMarks, contains s mark = false := by
  simp only [HasNoSyntax, contains, ← Bool.not_eq_true, hasInfix_iff]

/-- A character of no mark divides a text into two that have no marks if the text has none. -/
lemma hasNoSyntax_append_cons {a b : List Char} {c : Char} (hc : c ∉ ['<', '>', ':']) :
    HasNoSyntax (a ++ c :: b) ↔ HasNoSyntax a ∧ HasNoSyntax b := by
  have hmark : ∀ mark ∈ syntaxMarks, c ∉ mark.toList := by
    simpa [syntaxMarks] using hc
  unfold HasNoSyntax
  rw [← forall₂_and]
  refine forall₂_congr fun mark hmem => ?_
  rw [Text.infix_append_cons_iff (hmark mark hmem), not_or]

lemma anyHint_hasNoSyntax : HasNoSyntax anyHint.toList := by
  decide

/-- Outside of brackets, what stands behind the last pair of colons is found if there is a pair. -/
lemma isSome_afterLastSeparator? {cs : List Char} (hcolons : [':', ':'] <:+: cs)
    (hopen : '<' ∉ cs) (hclose : '>' ∉ cs) : (afterLastSeparator? 0 cs).isSome = true := by
  induction cs with
  | nil => simp at hcolons
  | cons c cs ih =>
    rw [afterLastSeparator?.eq_def]
    split
    · rfl
    · next d ds hpair heq =>
      obtain ⟨rfl, rfl⟩ := List.cons.inj heq
      have hstep : step 0 c = 0 := by
        have hne : c ≠ '<' ∧ c ≠ '>' := ⟨fun h => hopen (by simp [h]), fun h => hclose (by simp [h])⟩
        simp [step, hne]
      rw [hstep]
      refine ih ?_ (fun h => hopen (by simp [h])) fun h => hclose (by simp [h])
      refine (List.infix_cons_iff.1 hcolons).resolve_left fun hstart => ?_
      obtain ⟨more, hmore⟩ := hstart
      obtain ⟨rfl, rfl⟩ := List.cons.inj hmore
      exact hpair more rfl rfl
    · next heq => cases heq

lemma nameHint_hasNoSyntax {type : String}
    (h : contains type "<" = false → contains type ">" = false → contains type "::" = false) :
    HasNoSyntax (nameHint type).toList := by
  unfold nameHint
  split
  · decide
  split
  · decide
  · next hbrackets =>
    simp only [Bool.or_eq_true, not_or, Bool.not_eq_true] at hbrackets
    simpa [hasNoSyntax_iff, syntaxMarks] using ⟨hbrackets.1, hbrackets.2, h hbrackets.1 hbrackets.2⟩

variable {type hint : String}

lemma pathForm_hasNoSyntax (h : pathForm type = .done hint) : HasNoSyntax hint.toList := by
  have hname (hnone : afterLastSeparator? 0 type.toList = none) :
      HasNoSyntax (nameHint type).toList := by
    refine nameHint_hasNoSyntax fun hopen hclose => ?_
    simp only [contains, ← Bool.not_eq_true, hasInfix_iff] at hopen hclose ⊢
    intro hcolons
    have hsome := isSome_afterLastSeparator? hcolons (mt (List.singleton_infix_iff _ _).2 hopen)
      (mt (List.singleton_infix_iff _ _).2 hclose)
    rw [hnone] at hsome
    cases hsome
  unfold pathForm at h
  split at h
  · split at h <;> cases h
    exact hname ‹_›
  · split at h <;> cases h
    exact hname ‹_›
  · cases h
    decide

lemma hintForm_hasNoSyntax (h : hintForm type = .done hint) : HasNoSyntax hint.toList := by
  unfold hintForm at h
  split at h
  · cases h
    decide
  split at h
  · next hget =>
    cases h
    have hall : ∀ hint ∈ simpleHints.values, HasNoSyntax hint.toList := by
      decide
    exact hall hint (Table.mem_values_of_get? hget)
  split at h
  · cases h
  split at h
  · cases h
  split at h
  · split at h <;> cases h
  split at h
  · cases h
  split at h
  · split at h <;> cases h
    decide
  split at h
  · cases h
  split at h
  · cases h
    decide
  split at h
  · exact pathForm_hasNoSyntax h
  · next hcolons =>
    cases h
    exact nameHint_hasNoSyntax fun _ _ => Bool.not_eq_true _ ▸ hcolons

lemma text_hasNoSyntax {inner : String → String} (h : ∀ type, HasNoSyntax (inner type).toList)
    {form : HintForm} (hdone : ∀ hint, form = .done hint → HasNoSyntax hint.toList) :
    HasNoSyntax (form.text inner).toList := by
  have hempty : HasNoSyntax [] := by decide
  cases form with
  | done hint => exact hdone hint rfl
  | same type => exact h type
  | optional type =>
    rw [HintForm.text, String.toList_append]
    exact (hasNoSyntax_append_cons (by decide)).2 ⟨h type, by decide⟩
  | listOf type =>
    have htext : (HintForm.text inner (.listOf type)).toList =
        "list".toList ++ '[' :: ((inner type).toList ++ ']' :: []) := by
      simp [HintForm.text]
    rw [htext, hasNoSyntax_append_cons (by decide), hasNoSyntax_append_cons (by decide)]
    exact ⟨by decide, h type, hempty⟩
  | tableOf key value =>
    have htext : (HintForm.text inner (.tableOf key value)).toList = "dict".toList ++
        '[' :: ((inner key).toList ++ ',' :: ([] ++ ' ' :: ((inner value).toList ++ ']' :: []))) := by
      simp [HintForm.text]
    rw [htext, hasNoSyntax_append_cons (by decide), hasNoSyntax_append_cons (by decide),
      hasNoSyntax_append_cons (by decide), hasNoSyntax_append_cons (by decide)]
    exact ⟨by decide, h key, hempty, h value, hempty⟩

lemma hintWithin_hasNoSyntax (fuel : Nat) (type : String) :
    HasNoSyntax (hintWithin fuel type).toList := by
  induction fuel generalizing type with
  | zero => exact anyHint_hasNoSyntax
  | succ fuel ih =>
    rw [hintWithin]
    exact text_hasNoSyntax ih fun hint => hintForm_hasNoSyntax

/-- The hint of a type, whatever its text, has no angle bracket and no pair of colons. -/
theorem hint_hasNoSyntax (type : String) : contains (Stub.hint type) "<" = false ∧
    contains (Stub.hint type) ">" = false ∧ contains (Stub.hint type) "::" = false := by
  have hmarks : ∀ mark ∈ syntaxMarks, contains (Stub.hint type) mark = false :=
    hasNoSyntax_iff.1 (hintWithin_hasNoSyntax (type.length + 1) type)
  exact ⟨hmarks "<" (by decide), hmarks ">" (by decide), hmarks "::" (by decide)⟩

/-! ## Names of parameters -/

/-- The number after a name that so many others like it precede. -/
def numeral (n : Nat) : List Char :=
  if n = 0 then [] else Nat.toDigits 10 n

def numbered (param : String × Nat) : String :=
  String.ofList (param.1.toList ++ numeral param.2)

/-- Each name with the number of times that it came before, also among the names `before`. -/
def occurrences (before : List String) : List String → List (String × Nat)
  | [] => []
  | name :: rest => (name, before.count name) :: occurrences (name :: before) rest

variable {before names : List String} {name : String} {n : Nat} {p q : String × Nat}

lemma numbered_of_ne_zero (hn : n ≠ 0) : numbered (name, n) = name ++ toString n := by
  rw [numbered, numeral, if_neg hn, String.ofList_append, String.ofList_toList,
    Nat.toString_eq_ofList_toDigits]

lemma numbered_zero : numbered (name, 0) = name :=
  (congrArg String.ofList (List.append_nil _)).trans String.ofList_toList

lemma numberRepeats_eq {seen : Table Nat}
    (h : ∀ name, seen.get? name = if name ∈ before then some (before.count name) else none) :
    numberRepeats seen names = (occurrences before names).map numbered := by
  induction names generalizing seen before with
  | nil => rfl
  | cons name names ih =>
    have hnext : ∀ other, (seen.set name (before.count name + 1)).get? other =
        if other ∈ name :: before then some ((name :: before).count other) else none := by
      intro other
      by_cases hother : other = name
      · simp [hother, Table.get?_set_self]
      · rw [Table.get?_set_of_ne _ _ hother, h]
        simp [hother, Ne.symm hother]
    rw [occurrences, List.map_cons, ← ih hnext, numberRepeats, h]
    by_cases hmem : name ∈ before
    · have hcount : before.count name ≠ 0 := by rwa [Ne, List.count_eq_zero, not_not]
      simp only [hmem, if_true, numbered_of_ne_zero hcount]
      rfl
    · simp [hmem, List.count_eq_zero_of_not_mem hmem, numbered_zero]

lemma length_occurrences : (occurrences before names).length = names.length := by
  induction names generalizing before with
  | nil => rfl
  | cons name names ih => rw [occurrences, List.length_cons, ih, List.length_cons]

lemma mem_occurrences : (name, n) ∈ occurrences before names ↔
    before.count name ≤ n ∧ n < before.count name + names.count name := by
  induction names generalizing before with
  | nil => simp [occurrences]
  | cons first names ih =>
    rw [occurrences, List.mem_cons, ih, Prod.mk.injEq]
    by_cases hfirst : first = name
    · subst hfirst
      simp only [List.count_cons_self, true_and]
      omega
    · simp [List.count_cons_of_ne hfirst, Ne.symm hfirst]

lemma nodup_occurrences : (occurrences before names).Nodup := by
  induction names generalizing before with
  | nil => exact List.nodup_nil
  | cons name names ih =>
    refine List.nodup_cons.2 ⟨fun hmem => ?_, ih⟩
    have hcount := (mem_occurrences.1 hmem).1
    rw [List.count_cons_self] at hcount
    omega

lemma ofDigitChars_numeral (n : Nat) : Nat.ofDigitChars 10 (numeral n) 0 = n := by
  unfold numeral
  split
  · simp [*]
  · exact Nat.ofDigitChars_ten_toDigits

lemma numeral_eq_append (hn : n ≠ 0) : numeral n = numeral (n / 10) ++ [(n % 10).digitChar] := by
  by_cases hlt : n < 10
  · simp [numeral, hn, Nat.toDigits_of_lt_base hlt, Nat.div_eq_of_lt hlt, Nat.mod_eq_of_lt hlt]
  · have hdiv : n / 10 ≠ 0 := by omega
    rw [numeral, numeral, if_neg hn, if_neg hdiv,
      Nat.toDigits_of_base_le (by decide) (Nat.le_of_not_lt hlt)]

/-- What a numeral begins with is the numeral of a number that is not larger. -/
lemma exists_numeral_of_append {front back : List Char} (h : numeral n = front ++ back) :
    ∃ k ≤ n, front = numeral k := by
  induction back using List.reverseRecOn generalizing n with
  | nil => exact ⟨n, Nat.le_refl n, by rw [h, List.append_nil]⟩
  | append_singleton back c ih =>
    have hn : n ≠ 0 := by
      rintro rfl
      simp [numeral] at h
    rw [numeral_eq_append hn, ← List.append_assoc] at h
    obtain ⟨k, hk, hfront⟩ := ih (List.append_inj_left' h rfl)
    exact ⟨k, by omega, hfront⟩

lemma eq_or_exists_numbered {more : List Char} (hname : q.1.toList = p.1.toList ++ more)
    (hnumber : numeral p.2 = more ++ numeral q.2) :
    p = q ∨ ∃ k, k ≠ 0 ∧ k ≤ p.2 ∧ q.1 = p.1 ++ toString k := by
  obtain ⟨k, hk, rfl⟩ := exists_numeral_of_append hnumber
  by_cases hzero : k = 0
  · subst hzero
    have hvalue := congrArg (Nat.ofDigitChars 10 · 0) hnumber
    change Nat.ofDigitChars 10 (numeral p.2) 0 = Nat.ofDigitChars 10 (numeral q.2) 0 at hvalue
    rw [ofDigitChars_numeral, ofDigitChars_numeral] at hvalue
    have hnames : q.1.toList = p.1.toList := hname.trans (List.append_nil _)
    exact .inl (Prod.ext (String.toList_inj.1 hnames.symm) hvalue)
  · refine .inr ⟨k, hzero, hk, ?_⟩
    rw [← numbered_of_ne_zero hzero, numbered, ← hname, String.ofList_toList]

/-- The names are as many as the parameters, and they are distinct exactly if no parameter has the
name of another one with a number below the number of those that have this name. -/
theorem paramNames_nodup_iff (names : List String) :
    (paramNames names).length = names.length ∧
      ((paramNames names).Nodup ↔ ∀ name n, n ≠ 0 → n < (names.map safeName).count name →
        name ++ toString n ∉ names.map safeName) := by
  have heq : paramNames names = (occurrences [] (names.map safeName)).map numbered :=
    numberRepeats_eq fun name => rfl
  have hmem {name : String} {n : Nat} : (name, n) ∈ occurrences [] (names.map safeName) ↔
      n < (names.map safeName).count name := by
    simp [mem_occurrences]
  refine ⟨by rw [heq, List.length_map, length_occurrences, List.length_map], ?_⟩
  rw [heq, List.nodup_map_iff_inj_on nodup_occurrences]
  constructor
  · intro hinj name n hn hlt hname
    have hsame := hinj (name, n) (hmem.2 hlt) (name ++ toString n, 0)
      (hmem.2 (List.count_pos_iff.2 hname)) (by simp [numbered_of_ne_zero hn, numbered_zero])
    exact hn (congrArg Prod.snd hsame)
  · intro hfree p hp q hq hpq
    have hnot {p q : String × Nat} (hp : p ∈ occurrences [] (names.map safeName))
        (hq : q ∈ occurrences [] (names.map safeName)) :
        ¬ ∃ k, k ≠ 0 ∧ k ≤ p.2 ∧ q.1 = p.1 ++ toString k := by
      rintro ⟨k, hk, hkp, hname⟩
      refine hfree p.1 k hk (Nat.lt_of_le_of_lt hkp (hmem.1 hp)) ?_
      rw [← hname]
      exact List.count_pos_iff.1 (Nat.zero_lt_of_lt (hmem.1 hq))
    rcases List.append_eq_append_iff.1 (String.ofList_inj.1 hpq) with
      ⟨more, hname, hnumber⟩ | ⟨more, hname, hnumber⟩
    · exact (eq_or_exists_numbered hname hnumber).resolve_right (hnot hp hq)
    · exact ((eq_or_exists_numbered hname hnumber).resolve_right (hnot hq hp)).symm

/-- A second parameter without a name gets the name that the third one has. -/
theorem paramNames_repeat : ¬ (paramNames ["_", "_", "_1"]).Nodup := by
  decide

end Oxidize.Stub
