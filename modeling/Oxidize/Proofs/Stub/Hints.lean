import Mathlib.Data.List.Infix
import Oxidize.Proofs.Project.Selection
import Oxidize.Stub.Hint

/-!
# Hints of types

The hint of a type is put together from the hints of the types in it. Each of these is shorter than
the type itself (`length_inner_lt`), so that the bound on the steps of `hint` is never reached and
the hint is what the recursion without a bound gives (`hint_unfolds`).
-/

namespace Oxidize

open List

namespace Text

lemma length_trim_le (s : String) : (trim s).length ≤ s.length := by
  rw [trim, trimWhile, String.length_ofList]
  exact (length_dropEndWhile_le _ _).trans (dropWhile_suffix _).length_le

lemma length_replaceChars_le (old : List Char) (skip : Nat) (cs : List Char) :
    (replaceChars old [] skip cs).length ≤ cs.length := by
  induction cs generalizing skip with
  | nil => rw [replaceChars_nil]
  | cons c cs ih => cases skip <;> grind [replaceChars]

lemma length_replaceAll_le (s old : String) : (replaceAll s old "").length ≤ s.length := by
  rw [replaceAll, String.length_ofList]
  exact length_replaceChars_le _ _ _

lemma length_before_le (s sep : String) : (before s sep).length ≤ s.length := by
  unfold before cut?
  cases hcut : cutChars sep.toList s.toList with
  | none => exact le_rfl
  | some parts =>
    rw [← String.length_toList (s := s), eq_append_of_cutChars hcut]
    simp

lemma length_wordChars_le (current cs : List Char) :
    ([' '].intercalate (wordChars current cs)).length ≤ current.length + cs.length := by
  induction cs generalizing current with
  | nil => unfold wordChars; split <;> simp
  | cons c cs ih =>
    have hrest := ih []
    have hnext := ih (current ++ [c])
    rw [wordChars]
    split
    · split
      · simp at hrest ⊢
        omega
      · cases hwords : wordChars [] cs <;> simp_all [intercalate_cons_cons]
    · simp at hnext ⊢
      omega

end Text

namespace Stub

open Text Nesting

/-! ## What is taken out of a type -/

lemma length_dropLifetimes_le (state : LifetimeState) (cs : List Char) :
    (dropLifetimes state cs).length ≤ cs.length := by
  fun_induction dropLifetimes state cs <;> simp <;> omega

lemma length_dropMut_le (before : Char → Bool) (inWord eating : Bool) (cs : List Char) :
    (dropMut before inWord eating cs).length ≤ cs.length := by
  fun_induction dropMut before inWord eating cs <;> simp_all <;> omega

lemma length_dropEmptyBrackets_le (skip : Nat) (cs : List Char) :
    (dropEmptyBrackets skip cs).length ≤ cs.length := by
  fun_induction dropEmptyBrackets skip cs <;> simp <;> omega

lemma length_withoutMarks_le (type : String) : (withoutMarks type).length ≤ type.length := by
  have hdyn := length_replaceAll_le (String.ofList (dropLifetimes .outside type.toList)) "dyn "
  rw [String.length_ofList] at hdyn
  unfold withoutMarks withoutMut
  rw [String.length_ofList]
  refine (length_dropMut_le ..).trans ((length_dropMut_le ..).trans
    ((length_dropMut_le ..).trans ?_))
  rw [String.length_toList]
  refine le_trans ?_ (hdyn.trans (length_dropLifetimes_le .outside type.toList))
  split
  · exact (length_trim_le _).trans (length_before_le _ _)
  · exact le_rfl

variable {type inner : String}

lemma length_tidied?_le (h : tidied? type = some inner) : inner.length ≤ type.length := by
  unfold tidied? at h
  split at h
  · cases h
  dsimp only at h
  split at h
  · cases h
  split at h <;> cases h
  rw [Text.join, words, ← String.length_toList, String.toList_intercalate, map_map]
  simp only [Function.comp_def, String.toList_ofList, map_id']
  refine (length_wordChars_le _ _).trans ?_
  simpa [String.length_toList] using length_dropEmptyBrackets_le 0 type.toList

lemma length_plainType_le (type : String) : plainType type = anyHint ∨ plainType type = "None" ∨
    (plainType type).length ≤ type.length := by
  have hpaths (paths : List String) (type : String) :
      (paths.foldl (fun t path => replaceAll t path "") type).length ≤ type.length := by
    induction paths generalizing type with
    | nil => rfl
    | cons path paths ih => exact (ih _).trans (length_replaceAll_le _ _)
  unfold plainType
  split
  · exact .inl rfl
  split
  · exact .inr (.inl rfl)
  split
  · exact .inl rfl
  dsimp only
  split
  · exact .inl rfl
  cases htidied : tidied? (withoutMarks (droppedPaths.foldl (replaceAll · · "") type)) with
  | none => exact .inl rfl
  | some plain =>
    exact .inr (.inr ((length_tidied?_le htidied).trans
      ((length_withoutMarks_le _).trans (hpaths droppedPaths type))))

/-! ## The types in a type -/

/-- The types whose hints a form is made from. -/
def HintForm.types : HintForm → List String
  | done _ => []
  | same type | optional type | listOf type => [type]
  | tableOf key value => [key, value]

lemma HintForm.text_congr {f g : String → String} {form : HintForm}
    (h : ∀ type ∈ form.types, f type = g type) : form.text f = form.text g := by
  cases form <;> simp_all [text, types]

lemma length_argumentOf?_lt {head : String} (h : argumentOf? type head = some inner) :
    inner.length < type.length := by
  obtain ⟨hmarks, hinner⟩ := Option.ite_none_right_eq_some.1 h
  obtain rfl := Option.some.inj hinner
  have hstart := ( isPrefixOf_iff_prefix.1 (Bool.and_eq_true_iff.1 hmarks).1).length_le
  have hmark : (toString "<").length = 1 := rfl
  simp [dropEnd, Text.drop, String.length_toList] at hstart ⊢
  omega

lemma length_cutComma?_lt {depth : Int} {cs first rest : List Char}
    (h : cutComma? depth cs = some (first, rest)) :
    first.length < cs.length ∧ rest.length < cs.length := by
  induction cs generalizing depth first with
  | nil => cases h
  | cons c cs ih =>
    rw [cutComma?] at h
    split at h
    · cases h
      simp
    · obtain ⟨⟨front, back⟩, hcut, hparts⟩ := Option.map_eq_some_iff.1 h
      cases hparts
      have hlengths := ih hcut
      simp only [length_cons]
      omega

lemma length_afterLastSeparator?_lt {depth : Int} {cs name : List Char}
    (h : afterLastSeparator? depth cs = some name) : name.length < cs.length := by
  fun_induction afterLastSeparator? depth cs generalizing name <;> grind [Option.getD.eq_def]

lemma length_pathForm_lt (h : inner ∈ (pathForm type).types) : inner.length < type.length := by
  have hname {name} (h : afterLastSeparator? 0 type.toList = some name) :=
    length_afterLastSeparator?_lt h
  unfold pathForm at h
  grind [HintForm.types, String.length_ofList, String.length_toList]

lemma length_hintForm_lt (h : inner ∈ (hintForm type).types) : inner.length < type.length := by
  have hreference (hstart : startsWith type "&" = true) :
      (trim (Text.drop type 1)).length < type.length := by
    have hpos := ( isPrefixOf_iff_prefix.1 hstart).length_le
    refine (length_trim_le _).trans_lt ?_
    simp [Text.drop, String.length_toList] at hpos ⊢
    omega
  unfold hintForm at h
  repeat' split at h
  all_goals grind [HintForm.types, → length_argumentOf?_lt, → length_cutComma?_lt,
    → length_pathForm_lt, length_trim_le, String.length_ofList, String.length_toList]

lemma length_inner_lt (type : String) :
    ∀ inner ∈ (hintForm (plainType (trim type))).types, inner.length < type.length := by
  intro inner hinner
  rcases length_plainType_le (trim type) with h | h | h
  · rw [h] at hinner
    cases hinner
  · rw [h] at hinner
    cases hinner
  · exact (length_hintForm_lt hinner).trans_le (h.trans (length_trim_le type))

/-! ## The bound on the steps -/

lemma hintWithin_eq {n m : Nat} (hn : type.length < n) (hm : type.length < m) :
    hintWithin n type = hintWithin m type := by
  induction n generalizing type m with
  | zero => omega
  | succ n ih =>
    obtain ⟨m, rfl⟩ := Nat.exists_eq_succ_of_ne_zero (Nat.ne_zero_of_lt hm)
    refine HintForm.text_congr fun inner hinner => ?_
    have hlength := length_inner_lt type inner hinner
    exact ih (by omega) (by omega)

/-- The hint of a type is made from the hints of strictly shorter types. What is taken out of a text
before leaves it no longer, but for the two answers that no further type is found in. -/
theorem hint_unfolds (type : String) : (plainType type = anyHint ∨ plainType type = "None" ∨
      (plainType type).length ≤ type.length) ∧
    (hintForm anyHint).types = [] ∧ (hintForm "None").types = [] ∧
    (∀ inner ∈ (hintForm (plainType (trim type))).types, inner.length < type.length) ∧
    hint type = (hintForm (plainType (trim type))).text hint := by
  refine ⟨length_plainType_le type, rfl, rfl, length_inner_lt type, ?_⟩
  refine HintForm.text_congr fun inner hinner => ?_
  exact hintWithin_eq (length_inner_lt type inner hinner) (Nat.lt_succ_self _)

end Stub
end Oxidize
