import Oxidize.Emit.Mapped
import Oxidize.Proofs.Reading.Words

/-!
# Words in written texts

A text is written by putting pieces together, by filling in templates, and by dropping an ending
that another rule has written. A variable that stands in a piece stands in the whole, if the
characters around the piece are not parts of words. What is dropped are fixed endings, so a variable
is lost only if it has the name of one of their words (`droppedWords`).
-/

namespace Oxidize

open String (toList_append toList_ofList)
open Text List

/-! ## Pieces -/

/-- The words of the endings that are dropped again after they were written. -/
def droppedWords : List String :=
  ["to_string", "format", "len", "as", "None"] ++ Emit.intTypes ++ Emit.typedMethods

structure IsVariable (x : String) : Prop where
  identifier : isIdentifier x = true
  kept : x ∉ droppedWords

/-- The word `x` stands in the text `t` on its own. -/
def Stands (x t : String) : Prop :=
  StandsIn x.toList t.toList

/-- The word `x` stands in the text `t` on its own, and not at its end. -/
def Sealed (x t : String) : Prop :=
  ∃ before after, t.toList = before ++ (x.toList ++ after) ∧ Opens before ∧ Closes after ∧ after ≠ []

def Text.isOpening (l : String) : Bool :=
  decide (l.toList ≠ [] ∧ Opens l.toList)

def Text.isClosing (l : String) : Bool :=
  decide (l.toList ≠ [] ∧ Closes l.toList)

lemma Text.isWord_of_isIdentifier {x : String} (hx : isIdentifier x = true) : IsWord x.toList := by
  unfold isIdentifier at hx
  cases h : x.toList with
  | nil => simp [h] at hx
  | cons c cs =>
    rw [h] at hx
    simp only [Bool.and_eq_true, all_eq_true] at hx
    refine ⟨cons_ne_nil c cs, fun d hd => ?_⟩
    rcases mem_cons.1 hd with rfl | hd
    · simp [isNameChar, Unicode.isIdentifierPart, hx.1]
    · exact hx.2 d hd

lemma IsVariable.isWord {x : String} (hx : IsVariable x) : IsWord x.toList :=
  isWord_of_isIdentifier hx.identifier

lemma Stands.mem_names {x t : String} (hx : IsVariable x) (h : Stands x t) : x ∈ names t := by
  have hword := hx.isWord
  have hmem := StandsIn.mem_namePieces hword h
  refine mem_map.2 ⟨x.toList, mem_filter.2 ⟨hmem, ?_⟩, String.ofList_toList⟩
  simp [hword.ne_nil]

lemma Stands.elim {x t : String} (hx : IsVariable x) (h : Stands x t)
    (ht : ∀ name ∈ names t, isIdentifier name = false ∨ name ∈ droppedWords) : False := by
  rcases ht x (h.mem_names hx) with hname | hname
  · rw [hx.identifier] at hname
    cases hname
  · exact hx.kept hname

section Pieces

variable {x s t : String}

lemma Stands.self (x : String) : Stands x x :=
  StandsIn.self _

lemma Stands.behind (l : String) (h : Stands x t) (hl : isOpening l = true) :
    Stands x (l ++ t) := by
  unfold Stands at *
  rw [toList_append]
  exact StandsIn.append_right (of_decide_eq_true hl).2 h

lemma Stands.after (p l : String) (h : Stands x t) (hl : isOpening l = true) :
    Stands x (p ++ l ++ t) := by
  obtain ⟨hne, hopens⟩ := of_decide_eq_true hl
  unfold Stands at *
  rw [toList_append, toList_append]
  exact StandsIn.append_right (hopens.after_append hne) h

lemma Stands.seal (l : String) (h : Stands x t) (hl : isClosing l = true) : Sealed x (t ++ l) := by
  obtain ⟨hne, hcloses⟩ := of_decide_eq_true hl
  obtain ⟨before, after, ht, hbefore, hafter⟩ := h
  refine ⟨before, after ++ l.toList, ?_, hbefore, hafter.append hcloses, by simp [hne]⟩
  rw [toList_append, ht]
  simp

lemma Sealed.more (s : String) (h : Sealed x t) : Sealed x (t ++ s) := by
  obtain ⟨before, after, ht, hbefore, hafter, hne⟩ := h
  refine ⟨before, after ++ s.toList, ?_, hbefore, hafter.before_append hne, by simp [hne]⟩
  rw [toList_append, ht]
  simp

lemma Sealed.stands (h : Sealed x t) : Stands x t := by
  obtain ⟨before, after, ht, hbefore, hafter, -⟩ := h
  exact ⟨before, after, ht, hbefore, hafter⟩

/-- Two operands that are written one after the other. -/
lemma stands_pair {left right : String} (middle tail : String) (h : Stands x left ∨ Stands x right)
    (hmiddle : (isOpening middle && isClosing middle) = true)
    (htail : isClosing tail = true) : Stands x (left ++ middle ++ right ++ tail) := by
  obtain ⟨hopens, hcloses⟩ := Bool.and_eq_true_iff.1 hmiddle
  rcases h with h | h
  · exact (((h.seal middle hcloses).more _).more _).stands
  · exact ((h.after _ middle hopens).seal tail htail).stands

end Pieces

/-! ## Endings that are dropped -/

lemma Text.dropSuffix?_eq_some {s tail rest : String}
    (h : dropSuffix? s tail = some rest) : s = rest ++ tail := by
  unfold dropSuffix? Text.endsWith at h
  split at h
  · rename_i hsuffix
    obtain ⟨init, hinit⟩ := isSuffixOf_iff_suffix.1 hsuffix
    cases h
    apply String.toList_injective
    rw [toList_append, Text.dropEnd, toList_ofList, ← hinit]
    simp
  · cases h

section Dropped

variable {x s t tail arg : String} (hx : IsVariable x)
include hx

/-- A variable does not stand in an ending that is made of dropped words. -/
lemma Stands.dropped (h : Stands x (s ++ tail))
    (htail : (∀ c ∈ tail.toList.head?, isNameChar c = false) ∧
      ∀ name ∈ names tail, name ∈ droppedWords) : Stands x s := by
  unfold Stands at h
  rw [toList_append] at h
  rcases StandsIn.of_append hx.isWord h (.inr htail.1) with h | h
  · exact h
  · exact absurd (htail.2 x (Stands.mem_names hx h)) hx.kept

/-- A variable does not stand in a beginning that is made of dropped words. -/
lemma Stands.shifted {head : String} (h : Stands x (head ++ t))
    (hhead : (∀ c ∈ head.toList.getLast?, isNameChar c = false) ∧
      ∀ name ∈ names head, name ∈ droppedWords) : Stands x t := by
  unfold Stands at h
  rw [toList_append] at h
  rcases StandsIn.of_append hx.isWord h (.inl hhead.1) with h | h
  · exact absurd (hhead.2 x (Stands.mem_names hx h)) hx.kept
  · exact h

/-- A variable does not stand in characters at the end that are not parts of words. -/
lemma Stands.trimEnd {p : Char → Bool} (hp : ∀ c, p c = true → isNameChar c = false)
    (h : Stands x s) : Stands x (trimEndWhile s p) := by
  have hsplit : s.toList = dropEndWhile p s.toList ++ (s.toList.reverse.takeWhile p).reverse := by
    unfold dropEndWhile
    rw [← reverse_append, takeWhile_append_dropWhile, reverse_reverse]
  have hall : ∀ c ∈ (s.toList.reverse.takeWhile p).reverse, isNameChar c = false := by
    intro c hc
    exact hp c (all_eq_true.1 all_takeWhile c (mem_reverse.1 hc))
  unfold Stands at *
  unfold trimEndWhile
  rw [toList_ofList]
  rw [hsplit] at h
  rcases StandsIn.of_append hx.isWord h (.inr fun c hc => hall c (mem_of_mem_head? hc)) with
    h | ⟨before, after, heq, -⟩
  · exact h
  · obtain ⟨c, w, hw⟩ := exists_cons_of_ne_nil hx.isWord.ne_nil
    have hname := hx.isWord.chars c (by simp [hw])
    rw [hall c (by simp [heq, hw])] at hname
    cases hname

lemma Stands.of_dropSuffix? (h : dropSuffix? s tail = some t) (hs : Stands x s)
    (htail : (∀ c ∈ tail.toList.head?, isNameChar c = false) ∧
      ∀ name ∈ names tail, name ∈ droppedWords) : Stands x t := by
  rw [dropSuffix?_eq_some h] at hs
  exact hs.dropped hx htail

omit hx in
lemma ownedSuffix_dropped : (∀ c ∈ Template.ownedSuffix.toList.head?, isNameChar c = false) ∧
    ∀ name ∈ names Template.ownedSuffix, name ∈ droppedWords := by
  decide

lemma Stands.borrowed (h : Stands x arg) : Stands x (Template.borrowed arg) := by
  unfold Template.borrowed dropSuffix
  cases hdrop : dropSuffix? arg Template.ownedSuffix with
  | none => exact h
  | some rest => exact h.of_dropSuffix? hx hdrop ownedSuffix_dropped

lemma Stands.borrow (h : Stands x arg) : Stands x (Template.borrow arg) := by
  unfold Template.borrow
  cases hdrop : dropSuffix? arg Template.ownedSuffix with
  | none => exact h.behind "&" rfl
  | some rest => exact h.of_dropSuffix? hx hdrop ownedSuffix_dropped

lemma Stands.lengthReceiver {receiver : String} (hlength : Emit.lengthReceiver? s = some receiver)
    (h : Stands x s) : Stands x receiver := by
  unfold Emit.lengthReceiver? at hlength
  refine Stands.of_dropSuffix? hx hlength ?_ (by decide)
  cases hcore : Emit.intTypes.findSome? fun t => Text.dropSuffix? s s!" as {t}" with
  | none => exact h
  | some core =>
    obtain ⟨type, htype, hdrop⟩ := exists_of_findSome?_eq_some hcore
    have hwords : ∀ type ∈ Emit.intTypes,
        (∀ c ∈ s!" as {type}".toList.head?, isNameChar c = false) ∧
          ∀ name ∈ names s!" as {type}", name ∈ droppedWords := by
      decide
    exact h.of_dropSuffix? hx hdrop (hwords type htype)

end Dropped

/-! ## Lists -/

variable {x text : String} {texts : List String}

lemma Stands.join {sep : String} (h : Stands x text) (hmem : text ∈ texts)
    (hopens : Text.isOpening sep = true) (hcloses : Text.isClosing sep = true) :
    Stands x (Text.join sep texts) := by
  unfold Text.join
  induction texts with
  | nil => cases hmem
  | cons first rest ih =>
    cases rest with
    | nil =>
      obtain rfl := mem_singleton.1 hmem
      rwa [String.intercalate_singleton]
    | cons second rest =>
      rw [String.intercalate_cons_cons]
      rcases mem_cons.1 hmem with rfl | hmem
      · exact ((h.seal sep hcloses).more _).stands
      · exact (ih hmem).after first sep hopens

lemma Stands.commas (h : Stands x text) (hmem : text ∈ texts) : Stands x (commas texts) :=
  h.join hmem rfl rfl

/-! ## Templates -/

namespace Template

/-- Does the template hold the placeholder `name` where a word could stand? -/
def shows (template name : String) : Bool :=
  Text.standsFrom (hole name).toList true template.toList

/-- A name of a placeholder: a word, or a word that is borrowed. -/
structure IsHoleName (name : String) : Prop where
  bare : IsBare name.toList
  framed : ∃ mark word, name.toList = mark ++ word ∧ IsFramed ('\x7b' :: mark) word ['\x7d']

lemma toList_hole (name : String) : (hole name).toList = place name.toList := by
  unfold hole place
  simp

lemma isNameChar_left : isNameChar '\x7b' = false := by decide

lemma isNameChar_right : isNameChar '\x7d' = false := by decide

lemma isNameChar_amp : isNameChar '&' = false := by decide

lemma isBare_of_isWord {w : List Char} (hw : IsWord w) : IsBare w := by
  constructor <;> intro hmem <;> have hname := hw.chars _ hmem
  · rw [isNameChar_left] at hname
    cases hname
  · rw [isNameChar_right] at hname
    cases hname

lemma IsHoleName.of_word {name : String} (hname : IsWord name.toList) : IsHoleName name := by
  refine ⟨isBare_of_isWord hname, [], name.toList, rfl, hname, by simp, ?_, by simp, ?_⟩
  · simp [isNameChar_left]
  · simp [isNameChar_right]

lemma IsHoleName.of_borrowed {name : String} (hname : IsWord name.toList) :
    IsHoleName ("&" ++ name) := by
  have hbare := isBare_of_isWord hname
  refine ⟨⟨?_, ?_⟩, ['&'], name.toList, by simp, hname, by simp, ?_, by simp, ?_⟩
  · simp [hbare.left]
  · simp [hbare.right]
  · simp [isNameChar_left, isNameChar_amp]
  · simp [isNameChar_right]

/-- The template holds the placeholder `name` where a word could stand. -/
def HasPlace (name template : String) : Prop :=
  StandsIn (Text.place name.toList) template.toList

lemma hasPlace_of_shows {template name : String} (h : shows template name = true) :
    HasPlace name template := by
  have hplace := standsAfter_true.1 (standsAfter_of_standsFrom h)
  rwa [toList_hole] at hplace

section Fill

variable {x template name value : String}

lemma toList_fill : (fill template name value).toList =
    replaceChars (place name.toList) value.toList 0 template.toList := by
  unfold fill replaceAll
  rw [toList_ofList, toList_hole]

lemma stands_fill (hname : IsHoleName name) (hplace : HasPlace name template)
    (h : Stands x value) : Stands x (fill template name value) := by
  unfold Stands
  rw [toList_fill]
  exact StandsIn.fill hname.bare hplace h

lemma stands_of_template (hx : IsVariable x) (hname : IsHoleName name) (h : Stands x template) :
    Stands x (fill template name value) := by
  obtain ⟨mark, word, heq, hframed⟩ := hname.framed
  unfold Stands
  rw [toList_fill, heq]
  exact StandsIn.word_fill hx.isWord hframed h

lemma hasPlace_fill {other : String} (hname : IsHoleName name) (hother : IsHoleName other)
    (hne : other ≠ name) (h : HasPlace other template) :
    HasPlace other (fill template name value) := by
  unfold HasPlace
  rw [toList_fill]
  exact StandsIn.place_fill hname.bare hother.bare (fun heq => hne (String.toList_injective heq)) h

end Fill

/-! ### Numbered placeholders -/

lemma isNameChar_of_isDigit {c : Char} (hc : c.isDigit = true) : isNameChar c = true := by
  have hholds : Unicode.CharRuns.holds Unicode.continueRuns c = true :=
    Unicode.CharRuns.holds_of_isDigit hc
  simp [isNameChar, Unicode.isIdentifierPart, hholds]

lemma toList_toString (i : Nat) : (toString i).toList = Nat.toDigits 10 i := by
  rw [Nat.toString_eq_ofList_toDigits, toList_ofList]

lemma isWord_numbered (i : Nat) : IsWord (s!"arg{i}").toList := by
  have hchars : (s!"arg{i}").toList = ['a', 'r', 'g'] ++ Nat.toDigits 10 i := by
    rw [← toList_toString]
    exact toList_append
  rw [hchars]
  refine ⟨by simp, fun c hc => ?_⟩
  rcases mem_append.1 hc with hc | hc
  · have hletters : ∀ c ∈ ['a', 'r', 'g'], isNameChar c = true := by decide
    exact hletters c hc
  · exact isNameChar_of_isDigit (Nat.isDigit_of_mem_toDigits (by omega) (by omega) hc)

lemma numbered_injective {i j : Nat} (h : s!"arg{i}" = s!"arg{j}") : i = j := by
  have hdigits : Nat.toDigits 10 i = Nat.toDigits 10 j := by
    rw [← toList_toString, ← toList_toString]
    have h := congrArg String.toList h
    rw [show (s!"arg{i}").toList = "arg".toList ++ (toString i).toList from toList_append,
      show (s!"arg{j}").toList = "arg".toList ++ (toString j).toList from toList_append] at h
    exact append_cancel_left h
  rw [← Nat.ofDigitChars_ten_toDigits (n := i), hdigits, Nat.ofDigitChars_ten_toDigits]

section Numbered

/-- Write each argument, as `write` gives it, for the placeholder that `name` gives its number. -/
def fillFrom (name : Nat → String) (write : String → String) (template : String)
    (args : List String) (start : Nat) : String :=
  (args.zipIdx start).foldl (fun code (arg, i) => fill code (name i) (write arg)) template

variable {name : Nat → String} (write : String → String) {x template : String}

lemma stands_fillFrom_of_template (hx : IsVariable x) (hname : ∀ i, IsHoleName (name i))
    (args : List String) (start : Nat) (h : Stands x template) :
    Stands x (fillFrom name write template args start) := by
  induction args generalizing template start with
  | nil => exact h
  | cons arg args ih => exact ih (start + 1) (stands_of_template hx (hname start) h)

lemma hasPlace_fillFrom {other : String} (hname : ∀ i, IsHoleName (name i))
    (hother : IsHoleName other) (hne : ∀ i, other ≠ name i) (args : List String) (start : Nat)
    (h : HasPlace other template) : HasPlace other (fillFrom name write template args start) := by
  induction args generalizing template start with
  | nil => exact h
  | cons arg args ih =>
    exact ih (start + 1) (hasPlace_fill (hname start) hother (hne start) h)

/-- What stands in an argument stands in the text in which it is written for its place. -/
lemma stands_fillFrom (hx : IsVariable x) (hname : ∀ i, IsHoleName (name i))
    (hinj : ∀ i j, name i = name j → i = j) {args : List String} {arg : String} {j : Nat}
    (start : Nat) (harg : args[j]? = some arg) (hplace : HasPlace (name (start + j)) template)
    (h : Stands x (write arg)) : Stands x (fillFrom name write template args start) := by
  induction args generalizing template start j with
  | nil => simp at harg
  | cons first args ih =>
    cases j with
    | zero =>
      obtain rfl : first = arg := by simpa using harg
      exact stands_fillFrom_of_template write hx hname args (start + 1)
        (stands_fill (hname start) hplace h)
    | succ j =>
      have harg : args[j]? = some arg := by simpa using harg
      refine ih (start + 1) harg ?_
      have hne : name (start + (j + 1)) ≠ name start := by
        intro heq
        have := hinj _ _ heq
        omega
      rw [show start + 1 + j = start + (j + 1) by omega]
      exact hasPlace_fill (hname start) (hname _) hne hplace

end Numbered

/-! ### Calls -/

lemma isHoleName_self : IsHoleName "self" :=
  .of_word ⟨by simp, by decide⟩

lemma isHoleName_args : IsHoleName "args" :=
  .of_word ⟨by simp, by decide⟩

lemma isHoleName_numbered (i : Nat) : IsHoleName s!"arg{i}" :=
  .of_word (isWord_numbered i)

lemma borrowed_eq (i : Nat) : s!"&arg{i}" = "&" ++ s!"arg{i}" := by
  show "&arg" ++ toString i = "&" ++ ("arg" ++ toString i)
  rw [← String.append_assoc]
  rfl

lemma isHoleName_borrowed (i : Nat) : IsHoleName s!"&arg{i}" := by
  rw [borrowed_eq]
  exact .of_borrowed (isWord_numbered i)

lemma borrowed_injective {i j : Nat} (h : s!"&arg{i}" = s!"&arg{j}") : i = j := by
  rw [borrowed_eq, borrowed_eq, String.append_right_inj] at h
  exact numbered_injective h

lemma numbered_ne_borrowed (i j : Nat) : s!"arg{i}" ≠ s!"&arg{j}" := by
  intro h
  have hword := (isWord_numbered i).chars '&'
  rw [h, borrowed_eq] at hword
  have := hword (by simp)
  rw [isNameChar_amp] at this
  cases this

/-- Does a template show the argument at a position when all arguments are filled in? -/
def showsArg (template : String) (i : Nat) : Bool :=
  if has template "args" then shows template "args" else shows template s!"arg{i}"

/-- Does a template of a function call show the argument at a position? -/
def showsCallArg (template : String) (i : Nat) : Bool :=
  if has template "args" then shows template "args"
  else hasNumbered template && (shows template s!"arg{i}" || shows template s!"&arg{i}")

section Calls

variable {x template arg : String} {args : List String} {i : Nat} (hx : IsVariable x)
include hx

lemma stands_fillNumbered (harg : args[i]? = some arg) (hshows : shows template s!"arg{i}" = true)
    (h : Stands x arg) : Stands x (fillNumbered template args) := by
  refine stands_fillFrom id hx isHoleName_numbered (fun _ _ => numbered_injective) 0 harg ?_ h
  rw [Nat.zero_add]
  exact hasPlace_of_shows hshows

lemma stands_fillNumbered_of_template (h : Stands x template) :
    Stands x (fillNumbered template args) :=
  stands_fillFrom_of_template id hx isHoleName_numbered args 0 h

lemma stands_fillArgs (harg : args[i]? = some arg) (hshows : showsArg template i = true)
    (h : Stands x arg) : Stands x (fillArgs template args) := by
  unfold showsArg at hshows
  unfold fillArgs
  split
  · rename_i hargs
    rw [if_pos hargs] at hshows
    exact stands_fill isHoleName_args (hasPlace_of_shows hshows) (h.commas (mem_of_getElem? harg))
  · rename_i hargs
    rw [if_neg hargs] at hshows
    exact stands_fillNumbered hx harg hshows h

lemma stands_fillArgs_of_template (h : Stands x template) : Stands x (fillArgs template args) := by
  unfold fillArgs
  split
  · exact stands_of_template hx isHoleName_args h
  · exact stands_fillNumbered_of_template hx h

lemma stands_fillCall (harg : args[i]? = some arg) (hshows : showsCallArg template i = true)
    (h : Stands x arg) : Stands x (fillCall template args) := by
  unfold showsCallArg at hshows
  unfold fillCall
  split
  · rename_i hargs
    rw [if_pos hargs] at hshows
    exact stands_fill isHoleName_args (hasPlace_of_shows hshows) (h.commas (mem_of_getElem? harg))
  rename_i hargs
  rw [if_neg hargs, Bool.and_eq_true, Bool.or_eq_true] at hshows
  obtain ⟨hnumbered, hshows⟩ := hshows
  rw [if_pos hnumbered]
  rcases hshows with hshows | hshows
  · refine stands_fillFrom id hx isHoleName_numbered (fun _ _ => numbered_injective) 0 harg ?_ h
    rw [Nat.zero_add]
    exact hasPlace_fillFrom borrowed isHoleName_borrowed (isHoleName_numbered i)
      (numbered_ne_borrowed i) args 0 (hasPlace_of_shows hshows)
  · apply stands_fillNumbered_of_template hx
    refine stands_fillFrom borrowed hx isHoleName_borrowed (fun _ _ => borrowed_injective) 0
      harg ?_ (h.borrowed hx)
    rw [Nat.zero_add]
    exact hasPlace_of_shows hshows

end Calls

end Template

/-! ## Arguments of typed parameters -/

namespace Argument

lemma borrowLiterals_append {a : List Char} (ha : '"' ∉ a) (b : List Char) :
    borrowLiterals (a ++ b) = a ++ borrowLiterals b := by
  induction a with
  | nil => rfl
  | cons c a ih =>
    obtain ⟨hc, ha⟩ : '"' ≠ c ∧ '"' ∉ a := by simpa using ha
    rw [cons_append, borrowLiterals, if_neg (by simpa using hc.symm), ih ha, cons_append]

lemma head?_borrowLiterals (cs : List Char) : (borrowLiterals cs).head? = cs.head? := by
  cases cs with
  | nil => simp [borrowLiterals]
  | cons c cs =>
    rw [borrowLiterals]
    dsimp only
    split
    · rename_i hc
      obtain rfl : c = '"' := by simpa using hc
      split <;> rfl
    · rfl

lemma isGap_quote : isGap '"' = true := by decide

variable {w cs type : List Char}

lemma quote_ne_word {after : List Char} (hw : IsWord w) (h : '"' :: cs = w ++ after) : False := by
  obtain ⟨c, w, rfl⟩ := exists_cons_of_ne_nil hw.ne_nil
  have hname := hw.chars c (by simp)
  rw [← (List.cons.inj h).1, isNameChar_of_isGap isGap_quote] at hname
  cases hname

lemma eq_of_standsIn_ending (hw : IsWord w) (h : StandsIn w ('"' :: Template.ownedSuffix.toList)) :
    w = "to_string".toList := by
  have hpieces : ∀ piece ∈ namePieces ('"' :: Template.ownedSuffix.toList),
      piece ≠ [] → piece = "to_string".toList := by
    decide
  exact hpieces w (h.mem_namePieces hw) hw.ne_nil

/-- A word is kept when literals lose the ending that makes owned text of them. -/
lemma standsAfter_borrowLiterals (hw : IsWord w) (hne : w ≠ "to_string".toList) {free : Bool}
    (h : StandsAfter free w cs) : StandsAfter free w (borrowLiterals cs) := by
  fun_induction borrowLiterals cs generalizing free with
  | case1 => exact h
  | case2 c cs hc content rest ending hending =>
    rename_i ih
    obtain rfl : c = '"' := by simpa using hc
    have hcs : StandsIn w cs := by
      rw [← standsAfter_true, ← isGap_quote]
      refine h.of_cons.resolve_left ?_
      rintro ⟨-, after, hafter, -⟩
      exact quote_ne_word hw hafter
    obtain ⟨later, hlater⟩ := isPrefixOf_iff_prefix.1 hending
    have hdrop : rest.drop ending.length = later := by rw [← hlater, drop_left]
    rw [hdrop] at ih ⊢
    have hsplit : cs = content ++ (ending ++ later) := by
      rw [hlater]
      exact (prefix_iff_eq_append.1 ( takeWhile_prefix _)).symm
    refine StandsAfter.cons free ?_
    rw [isGap_quote, standsAfter_true]
    show StandsIn w (content ++ '"' :: borrowLiterals later)
    have hquote := isNameChar_of_isGap isGap_quote
    rw [hsplit] at hcs
    rcases hcs.of_append hw (.inr (by simp [ending, hquote])) with hcontent | hcs
    · exact hcontent.append_left (closes_cons.2 isGap_quote)
    rcases hcs.of_append hw (.inl (by decide)) with hending | hlater
    · exact absurd (eq_of_standsIn_ending hw hending) hne
    · have hlater := standsAfter_true.1 (ih (standsAfter_true.2 hlater))
      rw [← singleton_append, ← append_assoc]
      exact hlater.append_right (opens_concat.2 isGap_quote)
  | case3 c cs hc content rest ending hending =>
    rename_i ih
    obtain rfl : c = '"' := by simpa using hc
    refine (ih (h.of_cons.resolve_left ?_)).cons free
    rintro ⟨-, after, hafter, -⟩
    exact quote_ne_word hw hafter
  | case4 c cs hc ih =>
    rcases h.of_cons with ⟨hfree, after, hafter, hcloses⟩ | h
    · have hquote : '"' ∉ w := by
        intro hmem
        have hname := hw.chars _ hmem
        rw [isNameChar_of_isGap isGap_quote] at hname
        cases hname
      have hkept : c :: borrowLiterals cs = w ++ borrowLiterals after := by
        rw [← borrowLiterals_append hquote, ← hafter, borrowLiterals, if_neg hc]
      refine ⟨[], _, hkept, opens_nil, ?_, fun _ => hfree⟩
      unfold Closes
      rwa [head?_borrowLiterals]
    · exact (ih h).cons free

lemma optionContent?_infix {inner : List Char} (h : optionContent? type = some inner) :
    inner <:+: type := by
  unfold optionContent? at h
  split at h
  · cases h
    have hinit : (type.drop 7).dropLast <:+: type :=
      ( dropLast_prefix _).isInfix.trans (drop_suffix 7 type).isInfix
    have hstart := (dropWhile_suffix (l := (type.drop 7).dropLast) isBlank).isInfix
    refine List.IsInfix.trans ?_ (hstart.trans hinit)
    have hend := dropWhile_suffix (l := (((type.drop 7).dropLast).dropWhile isBlank).reverse)
      isBlank
    exact (reverse_suffix.1 (by simpa [dropEndWhile] using hend)).isInfix
  · cases h

lemma char_infix_of_takesChar (h : takesChar (String.ofList type) = true) :
    "char".toList <:+: type := by
  unfold takesChar Text.contains at h
  rw [Bool.or_eq_true, Bool.or_eq_true, Text.hasInfix_iff, Text.hasInfix_iff,
    toList_ofList (l := type), beq_iff_eq] at h
  rcases h with (h | h) | h
  · have htype : "char".toList = type := by rw [← h, toList_ofList]
    exact htype ▸ infix_refl _
  · have hchar : "char".toList <:+: "char>".toList := by decide
    exact hchar.trans h
  · have hchar : "char".toList <:+: "<char".toList := by decide
    exact hchar.trans h

lemma eq_some_of_ite {p : Prop} [Decidable p] {a : Option String} {c : String}
    (h : (if p then a else none) = some c) : a = some c := by
  split at h
  · exact h
  · cases h

lemma eq_some_of_orElse {a b : Option String} {c : String} (h : (a <|> b) = some c) :
    a = some c ∨ b = some c := by
  cases a with
  | none => exact .inr h
  | some a => exact .inl h

section Pass

variable {x arg : String} (hx : IsVariable x) (h : Stands x arg)
include hx h

lemma stands_borrowLiterals : Stands x (String.ofList (borrowLiterals arg.toList)) := by
  unfold Stands
  rw [toList_ofList, ← standsAfter_true]
  refine standsAfter_borrowLiterals hx.isWord (fun heq => ?_) (standsAfter_true.2 h)
  exact hx.kept (String.toList_injective heq ▸ by decide)

variable {type : String}

/-- A variable in an argument is kept when it is passed to a parameter that takes no character. -/
lemma stands_passPlain (htype : takesChar type = false) : Stands x (passPlain arg type).code := by
  have howned {code : String} (hcode : dropSuffix? arg Template.ownedSuffix = some code) :
      Stands x code := h.of_dropSuffix? hx hcode ownedSuffix_dropped
  unfold passPlain
  simp only [htype]
  split
  · rename_i code hcode
    show Stands x code
    rcases eq_some_of_orElse hcode with hchar | hcode
    · cases hchar
    rcases eq_some_of_orElse hcode with htext | hcode
    · rcases eq_some_of_orElse (eq_some_of_ite htext) with hcode | hcode
      · exact howned hcode
      · cases eq_some_of_ite hcode
        exact h.behind "&" rfl
    rcases eq_some_of_orElse hcode with hstr | hcode
    · exact howned (eq_some_of_ite hstr)
    rcases eq_some_of_orElse hcode with hid | hcode
    · rcases eq_some_of_orElse (eq_some_of_ite hid) with hcode | hcode
      · exact howned hcode
      · cases eq_some_of_ite hcode
        exact stands_borrowLiterals hx h
    · cases eq_some_of_ite hcode
      exact (h.seal ".clone()" rfl).stands
  · split
    · split
      · exact h
      · exact h.behind "&" rfl
    · split
      · split
        · exact h.behind "&mut " rfl
        · exact h.behind "&" rfl
      · exact h

lemma stands_passChars {type : List Char} (htype : ¬ "char".toList <:+: type) :
    Stands x (passChars arg type).code := by
  fun_induction passChars arg type with
  | case1 type inner hinner hwrapped => exact h
  | case2 type inner hinner hwrapped passed ih =>
    have hinfix := optionContent?_infix hinner
    have hpassed := ih fun hchar => htype (hchar.trans hinfix)
    exact ((hpassed.behind "Some(" rfl).seal ")" rfl).stands
  | case3 type hplain =>
    refine stands_passPlain hx h (Bool.eq_false_iff.2 fun htakes => htype ?_)
    exact char_infix_of_takesChar htakes

lemma stands_pass (htype : Text.contains type "char" = false) : Stands x (pass arg type).code := by
  refine stands_passChars hx h fun hchar => ?_
  unfold Text.contains at htype
  rw [Text.hasInfix_iff.2 hchar] at htype
  cases htype

end Pass

end Argument

end Oxidize
