import Mathlib.Data.List.Basic
import Oxidize.Text.CharClass

/-!
# Words of a text

The identifiers of a text are its longest runs of characters of identifiers (`names`). For a name in
braces any text can be written; so a word is said to stand in a text (`StandsIn`) only if there is
no brace next to it. Then it is kept when something is written for names in braces
(`StandsIn.word_fill`).
-/

namespace Oxidize.Text

open List

-- A statement about the characters of a text is decided by going through these characters, and not
-- through all characters that there are.
instance (priority := 2000) decidableForallMemChars {p : Char → Prop} [DecidablePred p]
    (cs : List Char) : Decidable (∀ c ∈ cs, p c) :=
  List.decidableBAll p cs

instance (priority := 2000) decidableForallMemChar? {p : Char → Prop} [DecidablePred p]
    (c? : Option Char) : Decidable (∀ c ∈ c?, p c) :=
  Option.decidableForallMem c?

variable {a b w t : List Char} {c : Char}

/-! ## Identifiers -/

lemma Unicode.CharRuns.holds_of_isDigit {rest : Unicode.CharRuns} (hc : c.isDigit = true) :
    holds (48 :: 10 :: rest) c = true := by
  have hrange : 48 ≤ c.toNat ∧ c.toNat ≤ 57 := by
    simp only [Char.isDigit, Bool.and_eq_true, decide_eq_true_eq] at hc
    exact hc
  rw [holds, holdsNat, if_neg (by omega), holdsNat, if_pos (by omega)]
  rfl

def isNameChar (c : Char) : Bool :=
  Unicode.isIdentifierPart c

/-- The runs of characters of identifiers between the other characters, empty ones included. -/
def namePieces : List Char → List (List Char)
  | [] => [[]]
  | c :: cs => if isNameChar c then consPiece c (namePieces cs) else [] :: namePieces cs

def names (t : String) : List String :=
  ((namePieces t.toList).filter (!·.isEmpty)).map String.ofList

lemma namePieces_ne_nil (cs : List Char) : namePieces cs ≠ [] := by
  cases cs with
  | nil => simp [namePieces]
  | cons c cs =>
    unfold namePieces
    split
    · cases namePieces cs <;> simp [consPiece]
    · simp

lemma namePieces_append_cons (a : List Char) (hc : isNameChar c = false) (b : List Char) :
    namePieces (a ++ c :: b) = namePieces a ++ namePieces b := by
  induction a with
  | nil => simp [namePieces, hc]
  | cons d a ih =>
    rw [cons_append, namePieces, namePieces, ih]
    split
    · cases h : namePieces a with
      | nil => exact absurd h (namePieces_ne_nil a)
      | cons piece pieces => rfl
    · rfl

lemma namePieces_word (hw : ∀ c ∈ w, isNameChar c = true) : namePieces w = [w] := by
  induction w with
  | nil => rfl
  | cons c w ih =>
    have hc : isNameChar c = true := hw c (by simp)
    rw [namePieces, if_pos hc, ih fun d hd => hw d (by simp [hd])]
    rfl

/-! ## Words on their own -/

def isGap (c : Char) : Bool :=
  !isNameChar c && c != '\x7b' && c != '\x7d'

def Opens (cs : List Char) : Prop :=
  ∀ c ∈ cs.getLast?, isGap c = true

def Closes (cs : List Char) : Prop :=
  ∀ c ∈ cs.head?, isGap c = true

instance (cs : List Char) : Decidable (Opens cs) :=
  inferInstanceAs (Decidable (∀ c ∈ cs.getLast?, isGap c = true))

instance (cs : List Char) : Decidable (Closes cs) :=
  inferInstanceAs (Decidable (∀ c ∈ cs.head?, isGap c = true))

lemma isNameChar_of_isGap (h : isGap c = true) : isNameChar c = false := by
  simp only [isGap, Bool.and_eq_true, Bool.not_eq_true'] at h
  exact h.1.1

lemma isGap_left : isGap '\x7b' = false := by
  simp [isGap]

lemma isGap_right : isGap '\x7d' = false := by
  simp [isGap]

lemma opens_nil : Opens [] := by
  intro c hc
  cases hc

lemma closes_nil : Closes [] := by
  intro c hc
  cases hc

lemma closes_cons {cs : List Char} : Closes (c :: cs) ↔ isGap c = true := by
  simp [Closes]

lemma opens_concat {cs : List Char} : Opens (cs ++ [c]) ↔ isGap c = true := by
  simp [Opens]

lemma Closes.append (ha : Closes a) (hb : Closes b) : Closes (a ++ b) := by
  cases a with
  | nil => exact hb
  | cons c a => exact closes_cons.2 (closes_cons.1 ha)

lemma Closes.of_append (h : Closes (a ++ b)) : Closes a := by
  cases a with
  | nil => exact closes_nil
  | cons c a => exact closes_cons.2 (closes_cons.1 h)

lemma Opens.append (ha : Opens a) (hb : Opens b) : Opens (a ++ b) := by
  rcases eq_nil_or_concat' b with rfl | ⟨b, c, rfl⟩
  · rwa [append_nil]
  · rw [← append_assoc, opens_concat]
    exact opens_concat.1 hb

lemma Opens.of_append (h : Opens (a ++ b)) : Opens b := by
  rcases eq_nil_or_concat' b with rfl | ⟨b, c, rfl⟩
  · exact opens_nil
  · rw [← append_assoc, opens_concat] at h
    exact opens_concat.2 h

lemma Opens.after_append (hb : Opens b) (hne : b ≠ []) : Opens (a ++ b) := by
  obtain ⟨b, c, rfl⟩ := (eq_nil_or_concat' b).resolve_left hne
  rw [← append_assoc, opens_concat]
  exact opens_concat.1 hb

lemma Closes.before_append (ha : Closes a) (hne : a ≠ []) : Closes (a ++ b) := by
  obtain ⟨c, a, rfl⟩ := exists_cons_of_ne_nil hne
  exact closes_cons.2 (closes_cons.1 ha)

structure IsWord (w : List Char) : Prop where
  ne_nil : w ≠ []
  chars : ∀ c ∈ w, isNameChar c = true

def StandsIn (w t : List Char) : Prop :=
  ∃ before after, t = before ++ (w ++ after) ∧ Opens before ∧ Closes after

namespace StandsIn

variable {w s t : List Char}

lemma self (w : List Char) : StandsIn w w :=
  ⟨[], [], by simp, opens_nil, closes_nil⟩

lemma append_left (h : StandsIn w s) (ht : Closes t) : StandsIn w (s ++ t) := by
  obtain ⟨before, after, rfl, hbefore, hafter⟩ := h
  exact ⟨before, after ++ t, by simp, hbefore, hafter.append ht⟩

lemma append_right (hs : Opens s) (h : StandsIn w t) : StandsIn w (s ++ t) := by
  obtain ⟨before, after, rfl, hbefore, hafter⟩ := h
  exact ⟨s ++ before, after, by simp, hs.append hbefore, hafter⟩

lemma mem_namePieces (hw : IsWord w) (h : StandsIn w t) : w ∈ namePieces t := by
  obtain ⟨before, after, rfl, hbefore, hafter⟩ := h
  have hrest : w ∈ namePieces (w ++ after) := by
    cases after with
    | nil => simp [namePieces_word hw.chars]
    | cons c after =>
      have hc := isNameChar_of_isGap (closes_cons.1 hafter)
      rw [namePieces_append_cons _ hc, namePieces_word hw.chars]
      simp
  rcases eq_nil_or_concat' before with rfl | ⟨before, c, rfl⟩
  · exact hrest
  · have hc := isNameChar_of_isGap (opens_concat.1 hbefore)
    rw [append_assoc, singleton_append, namePieces_append_cons _ hc]
    exact mem_append_right _ hrest

/-- Where two texts meet at a character that is not part of a word, a word stands in one of them. -/
lemma of_append (hw : IsWord w) (h : StandsIn w (s ++ t))
    (hmeet : (∀ c ∈ s.getLast?, isNameChar c = false) ∨ (∀ c ∈ t.head?, isNameChar c = false)) :
    StandsIn w s ∨ StandsIn w t := by
  obtain ⟨before, after, heq, hbefore, hafter⟩ := h
  rcases append_eq_append_iff.1 heq with ⟨rest, rfl, rfl⟩ | ⟨rest, rfl, hrest⟩
  · exact .inr ⟨rest, after, rfl, hbefore.of_append, hafter⟩
  rcases append_eq_append_iff.1 hrest with ⟨later, rfl, rfl⟩ | ⟨later, rfl, rfl⟩
  · exact .inl ⟨before, later, rfl, hbefore, hafter.of_append⟩
  -- The word is `rest` followed by `later`, so one of the two is empty.
  rcases eq_nil_or_concat' rest with rfl | ⟨rest, c, rfl⟩
  · exact .inr ⟨[], after, by simp, opens_nil, hafter⟩
  cases later with
  | nil => exact .inl ⟨before, [], by simp, hbefore, closes_nil⟩
  | cons d later =>
    exfalso
    rcases hmeet with hmeet | hmeet
    · have hname := hw.chars c (by simp)
      rw [hmeet c (by simp)] at hname
      cases hname
    · have hname := hw.chars d (by simp)
      rw [hmeet d (by simp)] at hname
      cases hname

end StandsIn

/-! ## From left to right -/

/-- The characters `w` stand in `t` on their own, at its beginning only if that is `free`. -/
def StandsAfter (free : Bool) (w t : List Char) : Prop :=
  ∃ before after, t = before ++ (w ++ after) ∧ Opens before ∧ Closes after ∧
    (before = [] → free = true)

lemma standsAfter_true : StandsAfter true w t ↔ StandsIn w t := by
  constructor
  · rintro ⟨before, after, ht, hbefore, hafter, -⟩
    exact ⟨before, after, ht, hbefore, hafter⟩
  · rintro ⟨before, after, ht, hbefore, hafter⟩
    exact ⟨before, after, ht, hbefore, hafter, fun _ => rfl⟩

lemma StandsAfter.cons (free : Bool) (h : StandsAfter (isGap c) w t) :
    StandsAfter free w (c :: t) := by
  obtain ⟨before, after, rfl, hbefore, hafter, hfree⟩ := h
  refine ⟨c :: before, after, rfl, ?_, hafter, fun hnil => by cases hnil⟩
  by_cases hnil : before = []
  · subst hnil
    rw [← nil_append [c], opens_concat]
    exact hfree rfl
  · exact hbefore.after_append (a := [c]) hnil

lemma StandsAfter.of_cons {free : Bool} (h : StandsAfter free w (c :: t)) :
    (free = true ∧ ∃ after, c :: t = w ++ after ∧ Closes after) ∨ StandsAfter (isGap c) w t := by
  obtain ⟨before, after, ht, hbefore, hafter, hfree⟩ := h
  cases before with
  | nil => exact .inl ⟨hfree rfl, after, ht, hafter⟩
  | cons d before =>
    obtain ⟨rfl, rfl⟩ := cons.inj ht
    refine .inr ⟨before, after, rfl, hbefore.of_append (a := [c]), hafter, ?_⟩
    rintro rfl
    rw [← nil_append [c], opens_concat] at hbefore
    exact hbefore

/-- Do the characters `w` stand in `t` on their own, at its beginning only if that is `free`? -/
def standsFrom (w : List Char) : Bool → List Char → Bool
  | _, [] => false
  | free, c :: cs =>
    (free && w.isPrefixOf (c :: cs) && decide (Closes ((c :: cs).drop w.length)))
      || standsFrom w (isGap c) cs

lemma standsAfter_of_standsFrom {free : Bool} (h : standsFrom w free t = true) :
    StandsAfter free w t := by
  induction t generalizing free with
  | nil => cases h
  | cons c t ih =>
    rw [standsFrom, Bool.or_eq_true, Bool.and_eq_true, Bool.and_eq_true] at h
    rcases h with ⟨⟨hfree, hprefix⟩, hafter⟩ | h
    · obtain ⟨after, hafter'⟩ := isPrefixOf_iff_prefix.1 hprefix
      rw [← hafter', drop_left, decide_eq_true_eq] at hafter
      exact ⟨[], after, hafter'.symm, opens_nil, hafter, fun _ => hfree⟩
    · exact (ih h).cons free

/-! ## Replacing -/

/-- No occurrence of `old` reaches from `a` into `b`. -/
def Apart (old a b : List Char) : Prop :=
  ∀ u v, old = u ++ v → u ≠ [] → v ≠ [] → u <:+ a → ¬ v <+: b

section Replace

variable {old new : List Char}

variable {a b : List Char}

lemma Apart.isPrefixOf_append (h : Apart old a b) (ha : a ≠ []) :
    old.isPrefixOf (a ++ b) = old.isPrefixOf a := by
  rw [Bool.eq_iff_iff, isPrefixOf_iff_prefix, isPrefixOf_iff_prefix]
  refine ⟨fun hold => ?_, fun hold => hold.trans (prefix_append a b)⟩
  rcases prefix_or_prefix_of_prefix hold (prefix_append a b) with hshort | hlong
  · exact hshort
  · obtain ⟨v, rfl⟩ := hlong
    have hv : v <+: b := (prefix_append_right_inj a).1 hold
    by_cases hnil : v = []
    · simp [hnil]
    · exact absurd hv (h a v rfl ha hnil (suffix_refl a))

/-- Texts that no occurrence joins are replaced in one after the other. -/
lemma replaceChars_append (h : Apart old a b) (skip : Nat) (hskip : skip ≤ a.length) :
    replaceChars old new skip (a ++ b) = replaceChars old new skip a ++ replaceChars old new 0 b := by
  induction a generalizing skip with
  | nil =>
    obtain rfl : skip = 0 := Nat.le_zero.1 hskip
    simp [replaceChars]
  | cons c a ih =>
    have hrest : Apart old a b := by
      intro u v hold hu hv hsuffix
      exact h u v hold hu hv (hsuffix.trans (suffix_cons c a))
    cases skip with
    | succ skip => exact ih hrest skip (Nat.le_of_succ_le_succ hskip)
    | zero =>
      have hprefix : old.isPrefixOf (c :: (a ++ b)) = old.isPrefixOf (c :: a) :=
        h.isPrefixOf_append (cons_ne_nil c a)
      simp only [cons_append, replaceChars, hprefix]
      split
      · rename_i hold
        have hlen : old.length - 1 ≤ a.length := by
          have := ( isPrefixOf_iff_prefix.1 hold).length_le
          simp only [length_cons] at this
          omega
        rw [ih hrest _ hlen, append_assoc]
      · rw [ih hrest 0 (Nat.zero_le _), cons_append]

lemma replaceChars_skip (a b : List Char) :
    replaceChars old new a.length (a ++ b) = replaceChars old new 0 b := by
  induction a with
  | nil => rfl
  | cons c a ih => exact ih

lemma replaceChars_self (hold : old ≠ []) (b : List Char) :
    replaceChars old new 0 (old ++ b) = new ++ replaceChars old new 0 b := by
  cases old with
  | nil => exact absurd rfl hold
  | cons c old =>
    have hprefix : (c :: old).isPrefixOf (c :: (old ++ b)) = true :=
      isPrefixOf_iff_prefix.2 (prefix_append (c :: old) b)
    rw [cons_append, replaceChars, if_pos hprefix]
    exact congrArg (new ++ ·) (replaceChars_skip old b)

lemma replaceChars_append_of_notMem {c : Char} (hc : c ∈ old.head?) (ha : c ∉ a) (b : List Char) :
    replaceChars old new 0 (a ++ b) = a ++ replaceChars old new 0 b := by
  obtain ⟨old, rfl⟩ : ∃ rest, old = c :: rest := by
    cases old with
    | nil => cases hc
    | cons d rest => exact ⟨rest, by simp_all⟩
  induction a with
  | nil => rfl
  | cons d a ih =>
    obtain ⟨hd, ha⟩ : c ≠ d ∧ c ∉ a := by simpa using ha
    have hprefix : (c :: old).isPrefixOf (d :: (a ++ b)) = false := by
      simp [List.isPrefixOf, hd]
    rw [cons_append, replaceChars, hprefix, if_neg (by simp), ih ha, cons_append]

lemma eq_of_prefix_marked {mark : Char} {name other more rest : List Char} (hname : mark ∉ name)
    (hother : mark ∉ other) (h : name ++ mark :: more <+: other ++ mark :: rest) : name = other := by
  obtain ⟨after, h⟩ := h
  have hends (a b : List Char) (ha : mark ∉ a) : (a ++ mark :: b).takeWhile (· != mark) = a := by
    rw [takeWhile_append_of_pos (by simpa using fun c hc => ne_of_mem_of_not_mem hc ha)]
    simp
  rw [append_assoc, cons_append] at h
  rw [← hends name _ hname, h, hends other _ hother]

/-- A name between two marks is not replaced in another name between them. -/
lemma replaceChars_other {first mark : Char} {name other more rest : List Char} (hname : mark ∉ name)
    (hother : mark ∉ other) (hne : other ≠ name) (hfirst : first ∉ other ++ mark :: rest)
    (b : List Char) :
    replaceChars (first :: (name ++ mark :: more)) new 0 (first :: (other ++ mark :: rest) ++ b) =
      first :: (other ++ mark :: rest) ++ replaceChars (first :: (name ++ mark :: more)) new 0 b := by
  have hprefix : ¬ (first :: (name ++ mark :: more)).isPrefixOf
      (first :: (other ++ mark :: rest ++ b)) = true := by
    rw [ isPrefixOf_iff_prefix, cons_prefix_cons, append_assoc, cons_append]
    intro h
    exact hne (eq_of_prefix_marked hname hother h.2).symm
  rw [cons_append, replaceChars, if_neg hprefix, replaceChars_append_of_notMem rfl hfirst, cons_append]

/-- A text ends after replacing as it did before, or with what was written last. -/
lemma replaceChars_ends {c : Char} (hc : c ∈ a.getLast?) (skip : Nat) (hskip : skip < a.length) :
    (∃ q, replaceChars old new skip a = q ++ [c]) ∨ ∃ q, replaceChars old new skip a = q ++ new := by
  induction a generalizing skip with
  | nil => cases hc
  | cons d a ih =>
    rw [length_cons] at hskip
    cases skip with
    | succ skip =>
      have ha : a ≠ [] := by
        rintro rfl
        simp at hskip
      exact ih (by rwa [getLast?_cons_of_ne_nil ha] at hc) skip (by omega)
    | zero =>
      unfold replaceChars
      split
      · rename_i hold
        have hlen := ( isPrefixOf_iff_prefix.1 hold).length_le
        rw [length_cons] at hlen
        by_cases hlast : old.length - 1 < a.length
        · have ha : a ≠ [] := by
            rintro rfl
            simp at hlast
          rcases ih (by rwa [getLast?_cons_of_ne_nil ha] at hc) _ hlast with
            ⟨q, hq⟩ | ⟨q, hq⟩
          · exact .inl ⟨new ++ q, by simp [hq]⟩
          · exact .inr ⟨new ++ q, by simp [hq]⟩
        · obtain hsame : old.length - 1 = a.length := by omega
          have hnil : replaceChars old new a.length (a ++ []) = replaceChars old new 0 [] :=
            replaceChars_skip a []
          rw [append_nil, replaceChars_nil] at hnil
          exact .inr ⟨[], by simp [hsame, hnil]⟩
      · by_cases ha : a = []
        · subst ha
          obtain rfl : d = c := by simpa using hc
          exact .inl ⟨[], by simp [replaceChars_nil]⟩
        · have hpos : 0 < a.length := length_pos_iff.2 ha
          rcases ih (by rwa [getLast?_cons_of_ne_nil ha] at hc) 0 hpos with ⟨q, hq⟩ | ⟨q, hq⟩
          · exact .inl ⟨d :: q, by simp [hq]⟩
          · exact .inr ⟨d :: q, by simp [hq]⟩

/-- A word may begin after a text in which an occurrence at the end is replaced, if it may begin
after what is written for it. -/
lemma opens_replaceChars (hold : old ≠ []) (ha : Opens a)
    (hnew : ∀ c ∈ old.getLast?, isGap c = true → new ≠ [] ∧ Opens new) :
    Opens (replaceChars old new 0 a) := by
  rcases eq_nil_or_concat' a with rfl | ⟨a, c, rfl⟩
  · exact opens_nil
  have hc := opens_concat.1 ha
  by_cases hlast : c ∈ old.getLast?
  · obtain ⟨hne, hopens⟩ := hnew c hlast hc
    have hends : (∃ q, replaceChars old new 0 (a ++ [c]) = q ++ [c]) ∨
        ∃ q, replaceChars old new 0 (a ++ [c]) = q ++ new := replaceChars_ends (by simp) 0 (by simp)
    rcases hends with ⟨q, hq⟩ | ⟨q, hq⟩
    · rw [hq]
      exact opens_concat.2 hc
    · rw [hq]
      exact hopens.after_append hne
  · have hapart : Apart old a [c] := by
      rintro u v rfl - hv - hprefix
      apply hlast
      obtain ⟨rest, rfl, hrest⟩ := (prefix_cons_iff.1 hprefix).resolve_left hv
      simp [prefix_nil.1 hrest]
    have hkept : replaceChars old new 0 [c] = [c] := by
      have hprefix : old.isPrefixOf [c] = false := by
        rw [Bool.eq_false_iff, ne_eq, isPrefixOf_iff_prefix]
        intro hprefix
        obtain ⟨rest, rfl, hrest⟩ := (prefix_cons_iff.1 hprefix).resolve_left hold
        exact hlast (by simp [prefix_nil.1 hrest])
      rw [replaceChars, hprefix, if_neg (by simp), replaceChars_nil]
    rw [replaceChars_append hapart 0 (Nat.zero_le _), hkept]
    exact opens_concat.2 hc

/-- A word may end before a text in which an occurrence at the beginning is replaced, if it may end
before what is written for it. -/
lemma closes_replaceChars (hold : old ≠ []) (hb : Closes b)
    (hnew : ∀ c ∈ old.head?, isGap c = true → new ≠ [] ∧ Closes new) :
    Closes (replaceChars old new 0 b) := by
  cases b with
  | nil => exact closes_nil
  | cons c b =>
    have hc := closes_cons.1 hb
    unfold replaceChars
    split
    · rename_i hprefix
      have hhead : c ∈ old.head? := by
        cases old with
        | nil => exact absurd rfl hold
        | cons d old =>
          have hboth : d = c ∧ old <+: b := by simpa [List.isPrefixOf] using hprefix
          simp [hboth.1]
      obtain ⟨hne, hcloses⟩ := hnew c hhead hc
      exact hcloses.before_append hne
    · exact closes_cons.2 hc

end Replace

/-! ## Replacing words between other characters -/

structure IsFramed (left word right : List Char) : Prop where
  word : IsWord word
  left_ne : left ≠ []
  left : ∀ c ∈ left, isNameChar c = false
  right_ne : right ≠ []
  right : ∀ c ∈ right, isNameChar c = false

namespace IsFramed

variable {left word right w before after : List Char}

lemma ne_nil (h : IsFramed left word right) : left ++ (word ++ right) ≠ [] := by
  simp [h.left_ne]

lemma eq_of_prefix (h : IsFramed left word right) (hw : IsWord w) (hafter : Closes after)
    ( hprefix : word ++ right <+: w ++ after) : w = word := by
  obtain ⟨rest, hrest⟩ := hprefix
  rw [append_assoc] at hrest
  obtain ⟨d, right', hright⟩ := exists_cons_of_ne_nil h.right_ne
  have hd : isNameChar d = false := h.right d (by simp [hright])
  rcases append_eq_append_iff.1 hrest with ⟨k, rfl, hk⟩ | ⟨k, hk, rfl⟩
  · cases k with
    | nil => simp
    | cons c k =>
      have hc : isNameChar c = true := hw.chars c (by simp)
      rw [hright, cons_append, cons_append] at hk
      rw [← (cons.inj hk).1, hd] at hc
      cases hc
  · cases k with
    | nil => simpa using hk.symm
    | cons c k =>
      have hc : isNameChar c = true := h.word.chars c (by simp [hk])
      rw [isNameChar_of_isGap (hafter c (by simp))] at hc
      cases hc

/-- A word between other characters does not reach into a word that is followed by another one. -/
lemma apart_word (h : IsFramed left word right) (hw : IsWord w) (hbefore : Opens before)
    (hafter : Closes after) (hne : w = word → ∀ c ∈ right.head?, isGap c = false) :
    Apart (left ++ (word ++ right)) before (w ++ after) := by
  intro u v hold hu hv hsuffix hprefix
  obtain ⟨u, a, rfl⟩ := (eq_nil_or_concat' u).resolve_left hu
  obtain ⟨b, w', rfl⟩ := exists_cons_of_ne_nil hw.ne_nil
  obtain ⟨v, rfl⟩ : ∃ v', v = b :: v' := by
    obtain ⟨c, v', rfl⟩ := exists_cons_of_ne_nil hv
    exact ⟨v', by rw [(cons_prefix_cons.1 hprefix).1]⟩
  have ha : isNameChar a = false := by
    obtain ⟨rest, rfl⟩ := hsuffix
    exact isNameChar_of_isGap (hbefore a (by simp [← append_assoc]))
  have hb : isNameChar b = true := hw.chars b (by simp)
  -- A boundary between another character and a character of a word is right before the word.
  have hboundary : word ++ right = b :: v := by
    rcases append_eq_append_iff.1 hold with ⟨k, hk, hrest⟩ | ⟨k, hk, hrest⟩
    · rcases eq_nil_or_concat' k with rfl | ⟨k, a', rfl⟩
      · simpa using hrest
      obtain rfl : a = a' := by
        rw [← append_assoc] at hk
        exact (append_inj' hk rfl).2 |> singleton_inj.1
      rcases append_eq_append_iff.1 hrest with ⟨m, -, hm⟩ | ⟨m, hm, -⟩
      · rw [h.right b (by simp [hm])] at hb
        cases hb
      · rw [h.word.chars a (by simp [hm])] at ha
        cases ha
    · cases k with
      | nil => simpa using hrest.symm
      | cons c k =>
        rw [h.left b (by simp [hk, (cons.inj hrest).1])] at hb
        cases hb
  rw [← hboundary] at hprefix
  obtain rfl := h.eq_of_prefix hw hafter hprefix
  obtain ⟨d, right, rfl⟩ := exists_cons_of_ne_nil h.right_ne
  obtain ⟨rest, rfl⟩ := (prefix_append_right_inj _).1 hprefix
  have hgap := hne rfl d (by simp)
  rw [closes_cons.1 hafter] at hgap
  cases hgap

lemma standsIn_replaceChars (h : IsFramed left word right) {new t : List Char} (hw : IsWord w)
    (hne : w = word → ∀ c ∈ right.head?, isGap c = false)
    (hopens : ∀ c ∈ right.getLast?, isGap c = true → new ≠ [] ∧ Opens new)
    (hcloses : ∀ c ∈ left.head?, isGap c = true → new ≠ [] ∧ Closes new)
    (ht : StandsIn w t) : StandsIn w (replaceChars (left ++ (word ++ right)) new 0 t) := by
  obtain ⟨before, after, rfl, hbefore, hafter⟩ := ht
  obtain ⟨first, left', rfl⟩ := exists_cons_of_ne_nil h.left_ne
  have hfirst : first ∉ w := by
    intro hmem
    have hname := hw.chars first hmem
    rw [h.left first (by simp)] at hname
    cases hname
  rw [replaceChars_append (h.apart_word hw hbefore hafter hne) 0 (Nat.zero_le _),
    replaceChars_append_of_notMem (by simp) hfirst]
  refine ⟨_, _, rfl, opens_replaceChars h.ne_nil hbefore ?_, closes_replaceChars h.ne_nil hafter ?_⟩
  · intro c hc
    rw [← append_assoc, getLast?_append_of_ne_nil _ h.right_ne] at hc
    exact hopens c hc
  · intro c hc
    exact hcloses c (by simpa using hc)

end IsFramed


/-! ## Places -/

def place (name : List Char) : List Char :=
  '\x7b' :: (name ++ ['\x7d'])

structure IsBare (name : List Char) : Prop where
  left : '\x7b' ∉ name
  right : '\x7d' ∉ name

section Places

variable {name other new w t : List Char}

lemma getLast?_place : (place name).getLast? = some '\x7d' :=
  getLast?_append_of_ne_nil ('\x7b' :: name) (cons_ne_nil _ _)

lemma left_notMem_of_place (hname : IsBare name) {u v : List Char} (h : place name = u ++ v)
    (hu : u ≠ []) : '\x7b' ∉ v := by
  obtain ⟨c, u, rfl⟩ := exists_cons_of_ne_nil hu
  obtain ⟨-, hrest⟩ := cons.inj h
  intro hmem
  have : '\x7b' ∈ name ++ ['\x7d'] := by simp [hrest, hmem]
  exact hname.left (by simpa using this)

lemma apart_place (hname : IsBare name) (before after : List Char) :
    Apart (place name) before (place other ++ after) := by
  intro u v hold hu hv _ hprefix
  apply left_notMem_of_place hname hold hu
  obtain ⟨c, v, rfl⟩ := exists_cons_of_ne_nil hv
  rw [(cons_prefix_cons.1 hprefix).1]
  exact mem_cons_self

lemma replaceChars_place (hname : IsBare name) (hother : IsBare other) (hne : other ≠ name)
    (after : List Char) : replaceChars (place name) new 0 (place other ++ after) =
      place other ++ replaceChars (place name) new 0 after :=
  replaceChars_other hname.right hother.right hne (by simp [hother.left]) after

lemma opens_fill {a : List Char} (ha : Opens a) : Opens (replaceChars (place name) new 0 a) := by
  refine opens_replaceChars (by simp [place]) ha fun c hc hopens => ?_
  rw [getLast?_place] at hc
  cases hc
  cases hopens.symm.trans isGap_right

lemma closes_fill {b : List Char} (hb : Closes b) : Closes (replaceChars (place name) new 0 b) := by
  refine closes_replaceChars (by simp [place]) hb fun c hc hcloses => ?_
  obtain rfl : c = '\x7b' := by simpa [place] using hc.symm
  cases hcloses.symm.trans isGap_left

lemma StandsIn.fill (hname : IsBare name) (hplace : StandsIn (place name) t)
    (hnew : StandsIn w new) : StandsIn w (replaceChars (place name) new 0 t) := by
  obtain ⟨before, after, rfl, hbefore, hafter⟩ := hplace
  rw [replaceChars_append (apart_place hname _ _) 0 (Nat.zero_le _),
    replaceChars_self (by simp [place])]
  exact append_right (opens_fill hbefore) (append_left hnew (closes_fill hafter))

lemma StandsIn.word_fill (hw : IsWord w) {mark word : List Char}
    (hframed : IsFramed ('\x7b' :: mark) word ['\x7d']) (ht : StandsIn w t) :
    StandsIn w (replaceChars (place (mark ++ word)) new 0 t) := by
  have hplace : place (mark ++ word) = ('\x7b' :: mark) ++ (word ++ ['\x7d']) := by simp [place]
  rw [hplace]
  refine hframed.standsIn_replaceChars hw ?_ ?_ ?_ ht
  · intro _ c hc
    obtain rfl : c = '\x7d' := by simpa using hc.symm
    exact isGap_right
  · intro c hc hgap
    obtain rfl : c = '\x7d' := by simpa using hc.symm
    cases hgap.symm.trans isGap_right
  · intro c hc hgap
    obtain rfl : c = '\x7b' := by simpa using hc.symm
    cases hgap.symm.trans isGap_left

lemma StandsIn.place_fill (hname : IsBare name) (hother : IsBare other) (hne : other ≠ name)
    (ht : StandsIn (place other) t) :
    StandsIn (place other) (replaceChars (place name) new 0 t) := by
  obtain ⟨before, after, rfl, hbefore, hafter⟩ := ht
  rw [replaceChars_append (apart_place hname _ _) 0 (Nat.zero_le _),
    replaceChars_place hname hother hne]
  exact ⟨_, _, rfl, opens_fill hbefore, closes_fill hafter⟩

end Places

end Oxidize.Text
