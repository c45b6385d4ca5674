import Oxidize.Proofs.Grouping.Phrases
import Oxidize.Proofs.Tables

/-!
# The forms that expressions are written in

`Reads lv typed code e` says that the text `code` is read as `e`, which binds at the level `lv`,
wherever it is written: it begins and ends with characters that stay apart from what is written
next to it. For each form of text there is one lemma, on how tightly the parts have to bind and how
tightly the whole does then.
-/

namespace Oxidize.Target

open IR (BinOp UnOp)
open Text (isNameChar)
open List

def Starts (code : String) : Prop :=
  code.toList.head?.any isStarter = true

def Ends (code : String) : Prop :=
  code.toList.getLast?.any isEnder = true

def Parts (code : String) : Prop :=
  code.toList.head?.any (!isNameChar ·) = true

instance (code : String) : Decidable (Starts code) :=
  inferInstanceAs (Decidable (_ = true))

instance (code : String) : Decidable (Ends code) :=
  inferInstanceAs (Decidable (_ = true))

instance (code : String) : Decidable (Parts code) :=
  inferInstanceAs (Decidable (_ = true))

def Form (lv : Nat) (typed : Bool) (ts : List Token) (e : Expr) : Prop :=
  if top ≤ lv then Term ts e
  else if prefixLevel ≤ lv then Operand ts e
  else Phrase lv typed ts e

variable {ts : List Token} {e : Expr} {lv : Nat} {typed : Bool} {code a w call name : String}

lemma Term.form (h : Term ts e) : Form top false ts e := by
  rwa [Form, if_pos (Nat.le_refl top)]

lemma Phrase.form (h : Phrase lv typed ts e) (hlv : lv ≤ castLevel) : Form lv typed ts e := by
  have hcast : castLevel < prefixLevel ∧ castLevel < top := by decide
  rwa [Form, if_neg (by omega), if_neg (by omega)]

lemma Form.term (h : Form lv typed ts e) (hlv : top ≤ lv) : Term ts e := by
  rwa [Form, if_pos hlv] at h

lemma Form.operand (h : Form lv typed ts e) (hlv : prefixLevel ≤ lv) : Operand ts e := by
  by_cases htop : top ≤ lv
  · exact (h.term htop).operand
  · rwa [Form, if_neg htop, if_pos hlv] at h

lemma Form.phrase {lv' : Nat} (h : Form lv typed ts e) (hlv : lv' ≤ lv)
    (hcast : lv' ≤ castLevel) : Phrase lv' typed ts e := by
  by_cases hfront : prefixLevel ≤ lv
  · exact (h.operand hfront).phrase hcast typed
  · have htop : ¬ top ≤ lv := fun htop => hfront (Nat.le_trans (by decide) htop)
    rw [Form, if_neg htop, if_neg hfront] at h
    exact h.mono hlv id

/-- The text is read as an expression that binds at the level, if it is written next to others. -/
structure Reads (lv : Nat) (typed : Bool) (code : String) (e : Expr) : Prop where
  starts : Starts code
  ends : Ends code
  form : Form lv typed (tokens code) e

lemma Reads.atTop (h : Reads lv typed code e) (hlv : top ≤ lv) : Reads top false code e :=
  ⟨h.starts, h.ends, (h.form.term hlv).form⟩

/-- Where no operator stands open, it does not matter whether a type stands at the end. -/
lemma Reads.typedAs (h : Reads lv typed code e) (hlv : prefixLevel ≤ lv) (typed' : Bool) :
    Reads lv typed' code e := by
  refine ⟨h.starts, h.ends, ?_⟩
  by_cases htop : top ≤ lv
  · rw [Form, if_pos htop]
    exact h.form.term htop
  · rw [Form, if_neg htop, if_pos hlv]
    exact h.form.operand hlv

lemma Reads.parse {lv : Nat} {typed : Bool} {code : String} {e : Expr}
    (h : Reads lv typed code e) : parse code = some e :=
  (h.form.phrase (Nat.zero_le lv) (Nat.zero_le castLevel)).parse

structure Encloses (code : String) (e : Expr) : Prop where
  ends : Ends code
  phrase : ∃ lv typed, Phrase lv typed (tokens code) e

/-! ## Texts next to each other -/

/-- The signs that are written next to operands are read on their own. -/
lemma sign_apart : ∀ s ∈ ["(", ")", "[", "]", ".", "..", "&", "-", "!"], tokens s = [.sign s] ∧
    Parts s ∧ ∀ c ∈ s.toList.getLast?, isNameChar c = false := by
  decide

lemma not_isNameChar_mark : ∀ c ∈ [' ', '(', ')', '.', '-', '"'], isNameChar c = false := by
  decide

lemma brackets_apart : Starts "(" ∧ Ends ")" ∧ Ends "]" ∧
    ∀ c ∈ ['(', '['], isNameChar c = false ∧ ∀ p ∈ signPairs, p.1 ≠ c := by
  decide

lemma tokens_before {b : String} (hcode : Ends code) (hb : Parts b) :
    tokens (code ++ b) = tokens code ++ tokens b := by
  refine tokens_append fun d hd c hc => ?_
  have hend : isEnder c = true := by simpa [Ends, Option.mem_def.1 hc] using hcode
  have hapart : isNameChar d = false := by simpa [Parts, Option.mem_def.1 hd] using hb
  simp [apart, hapart, isPair_of_isEnder hend]

lemma tokens_after (hcode : Starts code) (ha : ∀ c ∈ a.toList.getLast?, isNameChar c = false) :
    tokens (a ++ code) = tokens a ++ tokens code := by
  refine tokens_append fun d hd c hc => ?_
  have hstart : isStarter d = true := by simpa [Starts, Option.mem_def.1 hd] using hcode
  simp [apart, ha c hc, isPair_of_isStarter hstart]

lemma tokens_inside (ha : ∀ c ∈ a.toList.getLast?, c = '(' ∨ c = '[') :
    tokens (a ++ code) = tokens a ++ tokens code := by
  refine tokens_append fun d hd c hc => ?_
  obtain ⟨hname, hfirst⟩ := brackets_apart.2.2.2 c (by simpa using ha c hc)
  have hpair : isPair c d = false := by
    cases hpair : isPair c d with
    | false => rfl
    | true => exact absurd rfl (hfirst (c, d) (contains_iff_mem.1 hpair))
  simp [apart, hname, hpair]

lemma tokens_open {s : String} (hs : s ∈ ["(", "["]) : tokens (s ++ code) = .sign s :: tokens code := by
  have hsigns : ∀ s ∈ ["(", "["], tokens s = [.sign s] ∧ ∀ c ∈ s.toList.getLast?, c = '(' ∨ c = '[' := by
    simp [sign_apart]
  rw [tokens_inside (hsigns s hs).2, (hsigns s hs).1]
  rfl

lemma tokens_close {s : String} (h : Ends code) (hs : s ∈ [")", "]"]) :
    tokens (code ++ s) = tokens code ++ [.sign s] := by
  obtain ⟨htokens, hparts, -⟩ := sign_apart s (by simp at hs ⊢; tauto)
  rw [tokens_before h hparts, htokens]

lemma Starts.append (h : Starts a) (b : String) : Starts (a ++ b) := by
  unfold Starts at h ⊢
  rw [String.toList_append]
  cases hlist : a.toList with
  | nil => simp [hlist] at h
  | cons c cs => simpa [hlist] using h

lemma Parts.append (h : Parts a) (b : String) : Parts (a ++ b) := by
  unfold Parts at h ⊢
  rw [String.toList_append]
  cases hlist : a.toList with
  | nil => simp [hlist] at h
  | cons c cs => simpa [hlist] using h

lemma Ends.append {b : String} (h : Ends b) (a : String) : Ends (a ++ b) := by
  unfold Ends at h ⊢
  rw [String.toList_append, getLast?_append]
  cases hlast : b.toList.getLast? with
  | none => simp [hlast] at h
  | some c => simpa [hlast] using h

/-! ## Between brackets -/

lemma Reads.encloses (h : Reads lv typed code e) : Encloses code e :=
  ⟨h.ends, 0, typed, h.form.phrase (Nat.zero_le lv) (Nat.zero_le castLevel)⟩

lemma Reads.borrowed (h : Reads lv typed code e) (hlv : prefixLevel ≤ lv) :
    Encloses ("&" ++ code) (.borrow e) := by
  refine ⟨h.ends.append _, 0, false, ?_⟩
  obtain ⟨htokens, -, hlast⟩ := sign_apart "&" (by simp)
  rw [tokens_after h.starts hlast, htokens]
  exact (Operand.inFront rfl (h.form.operand hlv)).phrase (Nat.zero_le castLevel) false

/-! ## Terms -/

lemma starts_word (hne : w ≠ "") (hw : ∀ c ∈ w.toList, isNameChar c = true) : Starts w := by
  obtain ⟨c, cs, hlist⟩ : ∃ c cs, w.toList = c :: cs :=
    exists_cons_of_ne_nil (by simpa using hne)
  simp [Starts, hlist, isStarter, hw c (by simp [hlist])]

lemma ends_word (hne : w ≠ "") (hw : ∀ c ∈ w.toList, isNameChar c = true) : Ends w := by
  obtain ⟨cs, c, hlist⟩ : ∃ cs c, w.toList = cs ++ [c] :=
    (eq_nil_or_concat' _).resolve_left (by simpa using hne)
  simp [Ends, hlist, isEnder, hw c (by simp [hlist])]

lemma Reads.word (hne : w ≠ "") (hw : ∀ c ∈ w.toList, isNameChar c = true)
    (hatom : atom? w = some e) : Reads top false w e := by
  refine ⟨starts_word hne hw, ends_word hne hw, ?_⟩
  rw [tokens_word hne hw]
  exact (Term.word hatom).form

lemma Reads.paren (h : Encloses code e) : Reads top false ("(" ++ code ++ ")") e := by
  obtain ⟨lv, typed, hphrase⟩ := h.phrase
  have htokens : tokens ("(" ++ code ++ ")") = .sign "(" :: tokens code ++ [.sign ")"] := by
    rw [tokens_close (h.ends.append _) (by simp), tokens_open (by simp)]
  refine ⟨?_, brackets_apart.2.1.append _, ?_⟩
  · rw [String.append_assoc]
    exact brackets_apart.1.append _
  · rw [htokens]
    exact Term.paren hphrase

/-- The texts of the calls without arguments after their receiver, and the methods they call. -/
def bareCalls : Table String :=
  [(".len()", "len"), (".is_empty()", "is_empty"), (".unwrap()", "unwrap"), (".clone()", "clone")]

/-- The texts of the calls with one argument before it, and the methods they call. -/
def openCalls : Table String :=
  [(".join(", "join"), (".powf(", "powf"), (".contains(", "contains")]

/-- A method call without arguments. -/
lemma Reads.method (h : Reads lv typed code e) (hlv : top ≤ lv) (hcall : (call, name) ∈ bareCalls) :
    Reads top false (code ++ call) (.method e name none []) := by
  have hcalls : ∀ p ∈ bareCalls, tokens p.1 = [.sign ".", .word p.2, .sign "(", .sign ")"] ∧
      Parts p.1 ∧ Ends p.1 := by
    decide
  obtain ⟨htokens, hparts, hends⟩ := hcalls _ hcall
  refine ⟨h.starts.append _, hends.append _, ?_⟩
  rw [tokens_before h.ends hparts, htokens]
  simpa only [append_assoc, cons_append, nil_append] using
    (Term.method (h.form.term hlv) name Arguments.nil).form

lemma Reads.methodOf {arg : String} {a : Expr} (h : Reads lv typed code e) (hlv : top ≤ lv)
    (harg : Encloses arg a) (hcall : (call, name) ∈ openCalls) :
    Reads top false (code ++ call ++ arg ++ ")") (.method e name none [a]) := by
  obtain ⟨lv', typed', hphrase⟩ := harg.phrase
  have hcalls : ∀ p ∈ openCalls, tokens p.1 = [.sign ".", .word p.2, .sign "("] ∧ Parts p.1 ∧
      ∀ c ∈ p.1.toList.getLast?, c = '(' ∨ c = '[' := by
    decide
  obtain ⟨htokens, hparts, hlast⟩ := hcalls _ hcall
  refine ⟨((h.starts.append _).append _).append _, brackets_apart.2.1.append _, ?_⟩
  rw [tokens_close (harg.ends.append _) (by simp), String.append_assoc,
    tokens_before h.ends (hparts.append _), tokens_inside hlast, htokens]
  simpa only [append_assoc, cons_append, nil_append] using
    (Term.method (h.form.term hlv) name (Arguments.one hphrase)).form

lemma Reads.typedMethod (h : Reads lv typed code e) (hlv : top ≤ lv) {type : String}
    (hcall : tokens call = [.sign ".", .word name, .sign "::", .sign "<", .word type, .sign ">",
      .sign "(", .sign ")"] ∧ Parts call ∧ Ends call) :
    Reads top false (code ++ call) (.method e name (some type) []) := by
  refine ⟨h.starts.append _, hcall.2.2.append _, ?_⟩
  rw [tokens_before h.ends hcall.2.1, hcall.1]
  exact Term.typedMethod (h.form.term hlv) name type

lemma Reads.field {member : String} (h : Reads lv typed code e) (hlv : top ≤ lv)
    (hne : member ≠ "") (hmember : ∀ c ∈ member.toList, isNameChar c = true)
    (hfraction : isFraction e member = false) :
    Reads top false (code ++ "." ++ member) (.field e member) := by
  obtain ⟨htokens, hparts, hlast⟩ := sign_apart "." (by simp)
  have hends := ends_word hne hmember
  refine ⟨(h.starts.append _).append _, hends.append _, ?_⟩
  rw [String.append_assoc, tokens_before h.ends (hparts.append _),
    tokens_after (starts_word hne hmember) hlast, tokens_word hne hmember, htokens]
  exact (Term.field (h.form.term hlv) hfraction).form

lemma Reads.index {lv : Nat} {typed : Bool} {code index : String} {e i : Expr}
    (h : Reads lv typed code e) (hlv : top ≤ lv) (hindex : Encloses index i) :
    Reads top false (code ++ "[" ++ index ++ "]") (.index e i) := by
  obtain ⟨lv', typed', hphrase⟩ := hindex.phrase
  have hparts : Parts "[" := (sign_apart "[" (by simp)).2.1
  refine ⟨((h.starts.append _).append _).append _, brackets_apart.2.2.1.append _, ?_⟩
  rw [tokens_close (hindex.ends.append _) (by simp), String.append_assoc,
    tokens_before h.ends (hparts.append _), tokens_open (by simp)]
  simpa only [append_assoc, cons_append, nil_append] using
    (Term.index (h.form.term hlv) hphrase).form

/-- A call of a function with one argument, for the text `call` of the call before it. -/
lemma Reads.callOf {arg : String} {a : Expr} (harg : Encloses arg a) {f : String}
    (hcall : tokens call = [.word f, .sign "("] ∧ Starts call ∧ ∀ c ∈ call.toList.getLast?, c = '('
      ∨ c = '[') (hf : atom? f = some (.name f)) :
    Reads top false (call ++ arg ++ ")") (.call (.name f) [a]) := by
  obtain ⟨lv, typed, hphrase⟩ := harg.phrase
  refine ⟨(hcall.2.1.append _).append _, brackets_apart.2.1.append _, ?_⟩
  rw [tokens_close (harg.ends.append _) (by simp), tokens_inside hcall.2.2, hcall.1]
  simpa only [append_assoc, cons_append, nil_append] using
    (Term.call hf (Arguments.one hphrase)).form

/-! ## Operands and phrases -/

lemma Reads.inFront {s : String} {apply : Expr → Expr} (h : Reads lv typed code e)
    (hlv : prefixLevel ≤ lv) (hs : s ∈ ["-", "!"]) (happly : inFront? s = some apply) :
    Reads prefixLevel false (s ++ code) (apply e) := by
  have hstarts : ∀ s ∈ ["-", "!"], Starts s := by decide
  obtain ⟨htokens, -, hlast⟩ := sign_apart s (by simp at hs ⊢; tauto)
  refine ⟨(hstarts s hs).append _, h.ends.append _, ?_⟩
  rw [tokens_after h.starts hlast, htokens]
  exact Operand.inFront happly (h.form.operand hlv)

lemma Reads.cast {type : String} (h : Reads lv typed code e) (hlv : castLevel ≤ lv)
    (htype : type ∈ "f64" :: Emit.intTypes) :
    Reads castLevel true (code ++ " as " ++ type) (.cast e type) := by
  have htypes : ∀ type ∈ "f64" :: Emit.intTypes, type ≠ "" ∧ ∀ c ∈ type.toList, isNameChar c = true := by
    decide
  have has : tokens " as " = [.word "as"] ∧ Parts " as " ∧
      ∀ c ∈ " as ".toList.getLast?, isNameChar c = false := by
    decide
  obtain ⟨hne, htype⟩ := htypes type htype
  refine ⟨(h.starts.append _).append _, (ends_word hne htype).append _, ?_⟩
  rw [String.append_assoc, tokens_before h.ends (has.2.1.append _),
    tokens_after (starts_word hne htype) has.2.2, tokens_word hne htype, has.1]
  exact (Phrase.cast (h.form.phrase hlv (Nat.le_refl castLevel)) type).form (Nat.le_refl castLevel)

lemma Reads.binary {lv' : Nat} {typed' : Bool} {left right s : String} {l r : Expr} {op : BinOp}
    (hl : Reads lv typed left l) (hr : Reads lv' typed' right r) (hs : signs.get? s = some op)
    (hlv : leftLevel op ≤ lv) (hlv' : level op < lv') (htyped : typed = true → s ≠ "<" ∧ s ≠ "<<") :
    Reads (level op) true (left ++ " " ++ s ++ " " ++ right) (.binary op l r) := by
  have hsigns : ∀ p ∈ signs, tokens (" " ++ p.1 ++ " ") = [.sign p.1] ∧ Parts (" " ++ p.1 ++ " ") ∧
      ∀ c ∈ (" " ++ p.1 ++ " ").toList.getLast?, isNameChar c = false := by
    decide
  obtain ⟨htokens, hparts, hlast⟩ := hsigns (s, op) (Table.mem_of_get? hs)
  have hlevel := level_lt_castLevel op
  have htext : left ++ " " ++ s ++ " " ++ right = left ++ ((" " ++ s ++ " ") ++ right) := by
    simp only [String.append_assoc]
  rw [htext]
  refine ⟨hl.starts.append _, (hr.ends.append _).append _, ?_⟩
  rw [tokens_before hl.ends (hparts.append _), tokens_after hr.starts hlast, htokens]
  exact (Phrase.binary hs (hl.form.phrase hlv (leftLevel_le_castLevel op)) (Nat.le_refl _) htyped
    (hr.form.phrase hlv' hlevel)).form (Nat.le_of_lt hlevel)

end Oxidize.Target
