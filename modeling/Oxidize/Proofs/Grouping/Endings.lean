import Oxidize.Proofs.Grouping.Operations

/-!
# What the rules see of a written operand

Some rules look at how an operand is written: whether it ends in a length or in the conversion to an
owned text, whether it begins with the constructor of an option, and whether it is a number. What a
text ends in is decided by the last operand that stands open in it, since no ending that the rules
look for has an operator in it.
-/

namespace Oxidize.Emit

open IR (Expr BinOp)
open Target Text

/-! ## Endings -/

def lengthEndings : List String :=
  ".len()" :: intTypes.map (".len() as " ++ ·)

def endings : List String :=
  Template.ownedSuffix :: lengthEndings

def NoEnding (code : String) : Prop :=
  ∀ tail ∈ endings, ¬ tail.toList <:+ code.toList

lemma suffix_of_append_cons {a b tail : List Char} {d : Char} (hd : d ∉ tail)
    (h : tail <:+ a ++ d :: b) : tail <:+ b := by
  rcases List.suffix_or_suffix_of_suffix h (List.suffix_append a (d :: b)) with h | h
  · rcases List.suffix_cons_iff.1 h with rfl | h
    · exact absurd (by simp) hd
    · exact h
  · exact absurd (h.subset (by simp)) hd

variable {b tail code s : String}

lemma not_suffix_append (a : String)
    (hb : ¬ tail.toList <:+ b.toList ∧ ¬ b.toList <:+ tail.toList) :
    ¬ tail.toList <:+ (a ++ b).toList := by
  rw [String.toList_append]
  intro h
  rcases List.suffix_or_suffix_of_suffix h (List.suffix_append a.toList b.toList) with h | h
  · exact hb.1 h
  · exact hb.2 h

/-- What ends in a fixed text that has nothing to do with the endings has none of them. -/
lemma noEnding_append (a : String)
    (hb : ∀ tail ∈ endings, ¬ tail.toList <:+ b.toList ∧ ¬ b.toList <:+ tail.toList) :
    NoEnding (a ++ b) :=
  fun tail htail => not_suffix_append a (hb tail htail)

/-- The calls, conversions and brackets that are written after an operand are none of the
endings. -/
lemma noEnding_tail (hb : b ∈ ["]", " as f64", ".unwrap()", ".clone()", ".is_empty()",
      ".parse::<i64>().unwrap()"]) (a : String) : NoEnding (a ++ b) := by
  have htails : ∀ b ∈ ["]", " as f64", ".unwrap()", ".clone()", ".is_empty()",
      ".parse::<i64>().unwrap()"], ∀ tail ∈ endings,
        ¬ tail.toList <:+ b.toList ∧ ¬ b.toList <:+ tail.toList := by
    decide
  exact noEnding_append a (htails b hb)

lemma paren_mem_ending : ∀ tail ∈ endings, '(' ∈ tail.toList := by decide

/-- A parenthesis that closes an operand is not the one that closes an empty list of arguments. -/
lemma noEnding_close (h : Target.Ends code) (a : String) : NoEnding (a ++ code ++ ")") := by
  obtain ⟨cs, c, hlist⟩ : ∃ cs c, code.toList = cs ++ [c] := by
    refine (List.eq_nil_or_concat' _).resolve_left ?_
    intro hnil
    simp [Target.Ends, hnil] at h
  have hc : isEnder c = true := by simpa [Target.Ends, hlist] using h
  have htext : a ++ code ++ ")" = a ++ String.ofList cs ++ String.ofList [c, ')'] := by
    apply String.toList_injective
    simp [hlist]
  rw [htext]
  -- Before a parenthesis that ends an ending stands the one that opens.
  have hclosing : ∀ tail ∈ endings, 2 < tail.toList.length ∧
      (tail.toList.getLast? = some ')' → tail.toList.dropLast.getLast? = some '(') := by
    decide
  refine noEnding_append _ fun tail htail => ?_
  obtain ⟨hlong, hopen⟩ := hclosing tail htail
  rw [String.toList_ofList]
  refine ⟨fun h => absurd h.length_le (by simpa using hlong), ?_⟩
  rintro ⟨start, heq⟩
  rw [← heq] at hopen
  have hparen : c = '(' := by
    simpa [List.getLast?_append, List.dropLast_append_of_ne_nil] using hopen
  simp [hparen, isEnder, not_isNameChar_mark] at hc

lemma noEnding_word {w : String} (hw : ∀ c ∈ w.toList, isNameChar c = true) : NoEnding w := by
  intro tail htail h
  have hname := hw '(' (h.subset (paren_mem_ending tail htail))
  rw [not_isNameChar_mark '(' (by simp)] at hname
  cases hname

lemma noEnding_member (a : String) {w : String} (hw : ∀ c ∈ w.toList, isNameChar c = true) :
    NoEnding (a ++ "." ++ w) := by
  intro tail htail h
  have hword : ∀ d, isNameChar d = false → d ∉ w.toList := by
    intro d hd hmem
    rw [hw d hmem] at hd
    cases hd
  have htext : (a ++ "." ++ w).toList = a.toList ++ '.' :: w.toList := by
    simp
  rw [htext] at h
  -- What comes after the last blank or parenthesis of an ending is not the word.
  have hmark : ∀ tail ∈ endings, ∃ last ∈ ")" :: intTypes.map (" " ++ ·),
      last.toList <:+ tail.toList ∧ '.' ∉ last.toList ∧ (' ' ∈ last.toList ∨ ')' ∈ last.toList) := by
    decide
  obtain ⟨last, -, hlast, hpoint, hmem⟩ := hmark tail htail
  have hin := suffix_of_append_cons hpoint (hlast.trans h)
  rcases hmem with hmem | hmem
  · exact hword ' ' (not_isNameChar_mark ' ' (by simp)) (hin.subset hmem)
  · exact hword ')' (not_isNameChar_mark ')' (by simp)) (hin.subset hmem)

def isEndingChar (c : Char) : Bool :=
  c.isAlphanum || ['.', '_', '(', ')', ' '].contains c

lemma sign_not_mem_endings (hs : s ∈ "!" :: signs.keys) : s.toList ≠ [] ∧
    ∀ d ∈ s.toList, ∀ tail ∈ endings, d ∉ tail.toList := by
  have hendings : ∀ tail ∈ endings, ∀ c ∈ tail.toList, isEndingChar c = true := by decide
  have hsigns : ∀ s ∈ "!" :: signs.keys, s.toList ≠ [] ∧
      ∀ d ∈ s.toList, isEndingChar d = false := by
    decide
  refine ⟨(hsigns s hs).1, fun d hd tail htail hmem => ?_⟩
  have hchar := hendings tail htail d hmem
  rw [(hsigns s hs).2 d hd] at hchar
  cases hchar

/-- The ending of an operand with an operator in front of it is one of the operand. -/
lemma suffix_of_inFront {a : String} (htail : tail ∈ endings) (hs : s ∈ "!" :: signs.keys)
    (h : tail.toList <:+ (a ++ s ++ code).toList) : tail.toList <:+ code.toList := by
  obtain ⟨hne, hfree⟩ := sign_not_mem_endings hs
  obtain ⟨cs, d, hlist⟩ := (List.eq_nil_or_concat' s.toList).resolve_left hne
  have htext : (a ++ s ++ code).toList = (a.toList ++ cs) ++ d :: code.toList := by
    simp [hlist]
  rw [htext] at h
  exact suffix_of_append_cons (hfree d (by simp [hlist]) tail htail) h

lemma suffix_of_operation {left right : String} (htail : tail ∈ endings)
    (hs : s ∈ signs.keys) (h : tail.toList <:+ (left ++ " " ++ s ++ " " ++ right).toList) :
    tail.toList <:+ right.toList := by
  have htext : left ++ " " ++ s ++ " " ++ right = (left ++ " ") ++ s ++ (" " ++ right) := by
    simp only [String.append_assoc]
  rw [htext] at h
  have hspace := suffix_of_inFront htail (List.mem_cons_of_mem _ hs) h
  have hfirst : ∀ tail ∈ endings, tail.toList.head? = some '.' := by decide
  rw [String.toList_append] at hspace
  rcases List.suffix_cons_iff.1 (show tail.toList <:+ ' ' :: right.toList from hspace) with heq | h
  · have hhead := hfirst tail htail
    rw [heq] at hhead
    cases hhead
  · exact h

lemma isOwnedText_iff : isOwnedText code = true ↔ Template.ownedSuffix.toList <:+ code.toList :=
  List.isSuffixOf_iff_suffix

lemma toList_suffix (a b : String) : b.toList <:+ (a ++ b).toList := by
  rw [String.toList_append]
  exact List.suffix_append _ _

lemma len_append_as (type : String) : ".len()" ++ (" as " ++ type) = ".len() as " ++ type := by
  have hlit : ".len() as " = ".len()" ++ " as " := by decide
  rw [hlit, String.append_assoc]

lemma exists_suffix_of_lengthReceiver? {receiver : String}
    (h : lengthReceiver? code = some receiver) :
    ∃ tail ∈ lengthEndings, tail.toList <:+ code.toList := by
  rcases lengthReceiver?_eq_some h with rfl | ⟨type, htype, rfl⟩
  · exact ⟨".len()", List.mem_cons_self, toList_suffix _ _⟩
  · refine ⟨".len() as " ++ type, List.mem_cons_of_mem _ (List.mem_map.2 ⟨type, htype, rfl⟩), ?_⟩
    rw [String.append_assoc, len_append_as]
    exact toList_suffix _ _

lemma dropSuffix?_append (s tail : String) : dropSuffix? (s ++ tail) tail = some s := by
  unfold dropSuffix? endsWith
  rw [if_pos (List.isSuffixOf_iff_suffix.2 (toList_suffix s tail))]
  congr 1
  apply String.toList_injective
  simp [dropEnd]

lemma lengthReceiver?_len {type : String} (htype : type ∈ intTypes) (code : String) :
    lengthReceiver? (code ++ ".len() as " ++ type) = some code := by
  have htext : code ++ ".len() as " ++ type = code ++ ".len()" ++ (" as " ++ type) := by
    rw [String.append_assoc, String.append_assoc, len_append_as]
  -- No conversion ends in another one.
  have hunique : ∀ t ∈ intTypes, ∀ type ∈ intTypes,
      (" as " ++ t).toList <:+ (" as " ++ type).toList → t = type := by
    decide
  have hcore : (intTypes.findSome? fun t =>
      dropSuffix? (code ++ ".len()" ++ (" as " ++ type)) s!" as {t}") =
        some (code ++ ".len()") := by
    cases hfound : intTypes.findSome? fun t =>
        dropSuffix? (code ++ ".len()" ++ (" as " ++ type)) s!" as {t}" with
    | none =>
      have hnone := List.findSome?_eq_none_iff.1 hfound type htype
      cases (dropSuffix?_append _ _).symm.trans hnone
    | some core =>
      obtain ⟨t, ht, hdrop⟩ := List.exists_of_findSome?_eq_some hfound
      have heq : code ++ ".len()" ++ (" as " ++ type) = core ++ (" as " ++ t) :=
        dropSuffix?_eq_some hdrop
      have hsame : t = type := by
        have hl := toList_suffix core (" as " ++ t)
        have hr := toList_suffix (code ++ ".len()") (" as " ++ type)
        rw [← heq] at hl
        rcases List.suffix_or_suffix_of_suffix hl hr with h | h
        · exact hunique t ht type htype h
        · exact (hunique type htype t ht h).symm
      rw [hsame] at heq
      rw [(String.append_left_inj _).1 heq]
  rw [htext, lengthReceiver?, hcore]
  exact dropSuffix?_append _ _

/-! ## Beginnings -/

lemma prefix_of_append_cons {a b start : List Char} {d : Char} (hd : d ∉ start)
    (h : start <+: a ++ d :: b) : start <+: a := by
  have hlong : a ++ [d] <+: a ++ d :: b := ⟨b, by simp⟩
  rcases List.prefix_or_prefix_of_prefix h hlong with h | h
  · rcases List.prefix_concat_iff.1 h with rfl | h
    · exact absurd (by simp) hd
    · exact h
  · exact absurd (h.subset (by simp)) hd

def opensSome (code : String) : Bool :=
  startsWith code "Some("

lemma not_opensSome_of_head {d : Char} (hd : code.toList.head? = some d) (hne : d ≠ 'S') :
    opensSome code = false := by
  cases hopen : opensSome code with
  | false => rfl
  | true =>
    obtain ⟨rest, hrest⟩ := List.isPrefixOf_iff_prefix.1 hopen
    have hlit : "Some(".toList = ['S', 'o', 'm', 'e', '('] := by decide
    rw [← hrest, hlit] at hd
    cases hd
    exact absurd rfl hne

lemma opensSome_of_append {a : String} (hb : ∀ d ∈ b.toList.head?, d ∉ "Some(".toList)
    (hne : b ≠ "") (h : opensSome (a ++ b) = true) : opensSome a = true := by
  obtain ⟨d, ds, hlist⟩ : ∃ d ds, b.toList = d :: ds :=
    List.exists_cons_of_ne_nil (by simpa using hne)
  have hbegins := List.isPrefixOf_iff_prefix.1 h
  rw [String.toList_append, hlist] at hbegins
  exact List.isPrefixOf_iff_prefix.2 (prefix_of_append_cons (hb d (by simp [hlist])) hbegins)

lemma not_opensSome_append {a : String} (ha : opensSome a = false)
    (hb : ∀ d ∈ b.toList.head?, d ∉ "Some(".toList) (hne : b ≠ "") : opensSome (a ++ b) = false := by
  rw [← Bool.not_eq_true] at *
  exact fun h => ha (opensSome_of_append hb hne h)

/-! ## Numbers -/

def isNumber (code : String) : Bool :=
  isDigits (trimStartWhile code (· == '-'))

lemma isNumber_neg (code : String) : isNumber ("-" ++ code) = isNumber code := by
  simp [isNumber, trimStartWhile]

lemma isNumber_toString (n : Nat) : isNumber (toString n) = true := by
  have hdigits : ∀ c ∈ (toString n).toList, c.isDigit = true :=
    fun c hc => isDigit_of_mem_toString hc
  have htrim : (toString n).toList.dropWhile (· == '-') = (toString n).toList := by
    cases hlist : (toString n).toList with
    | nil => rfl
    | cons c cs =>
      have hsign : (c == '-') = false := by
        cases hsign : c == '-' with
        | false => rfl
        | true =>
          have hdigit := hdigits c (hlist ▸ List.mem_cons_self)
          rw [beq_iff_eq.1 hsign] at hdigit
          cases hdigit
      rw [List.dropWhile_cons_of_neg (by simp [hsign])]
  have hall : (toString n).toList.all Text.Unicode.isDigit = true :=
    List.all_eq_true.2 fun c hc => Text.Unicode.isDigit_of_ascii (hdigits c hc)
  have hne : (toString n).toList.isEmpty = false := by
    simp [Nat.toDigits_ne_nil]
  rw [isNumber, isDigits, trimStartWhile, String.toList_ofList, htrim, hall, hne]
  rfl

lemma isNumber_of_mem {d : Char} (hd : d ∈ code.toList) (hsign : d ≠ '-')
    (hdigit : Text.Unicode.isDigit d = false) : isNumber code = false := by
  cases hnumber : isNumber code with
  | false => rfl
  | true =>
    rw [isNumber, isDigits, trimStartWhile, String.toList_ofList, Bool.and_eq_true,
      List.all_eq_true] at hnumber
    rw [← List.takeWhile_append_dropWhile (p := (· == '-')) (l := code.toList),
      List.mem_append] at hd
    have htaken : (code.toList.takeWhile (· == '-')).all (· == '-') = true := List.all_takeWhile
    rcases hd with hd | hd
    · exact absurd (beq_iff_eq.1 (List.all_eq_true.1 htaken d hd)) hsign
    · rw [hnumber.2 d hd] at hdigit
      cases hdigit

end Oxidize.Emit
