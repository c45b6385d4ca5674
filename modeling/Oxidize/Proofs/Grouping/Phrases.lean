import Oxidize.Proofs.Grouping.Grammar

/-!
# How written expressions are read back

What the reader makes of tokens depends on the tokens after them, so each statement here is about
tokens in front of any others. A term takes fields, items and calls (`Term`); an operand is complete
if none follow, and may have operators in front of it (`Operand`); a phrase of some level is
complete if only operators follow that bind less tightly than it (`Phrase`).
-/

namespace Oxidize.Target

open List
open IR (BinOp UnOp)

/-! ## What may follow -/

/-- Do the tokens not go on with arguments, so that the name of a field may stand before them? -/
def EndsName : List Token → Prop
  | .sign s :: _ => s ≠ "(" ∧ s ≠ "::"
  | _ => True

def EndsOperand : List Token → Prop
  | .sign s :: _ => s ≠ "(" ∧ s ≠ "::" ∧ s ≠ "." ∧ s ≠ "["
  | _ => True

/-- May a phrase of the level end before the tokens? If it is `typed`, it ends with a type. -/
def EndsPhrase (lv : Nat) (typed : Bool) : List Token → Prop
  | .sign s :: _ =>
    s ≠ "(" ∧ s ≠ "::" ∧ s ≠ "." ∧ s ≠ "[" ∧ (∀ op, signs.get? s = some op → leftLevel op ≤ lv) ∧
      (typed = true → s ≠ "<" ∧ s ≠ "<<")
  | .word _ :: _ => castLevel ≤ lv
  | [] => True

/-- The tokens are read as an expression that may go on with fields, items and calls. -/
def Term (ts : List Token) (e : Expr) : Prop :=
  ∀ rest, EndsName rest → operand (ts ++ rest) = suffixes e rest

def Operand (ts : List Token) (e : Expr) : Prop :=
  ∀ rest, EndsOperand rest → operand (ts ++ rest) = some (e, rest)

/-- The tokens are read as an expression whose outermost operator binds at `lv`. -/
def Phrase (lv : Nat) (typed : Bool) (ts : List Token) (e : Expr) : Prop :=
  ∀ rest, EndsPhrase lv typed rest → ∀ least ≤ lv,
    ∃ reached, lv ≤ reached ∧ expr least (ts ++ rest) = more least reached e rest

variable {rest ts us : List Token} {lv : Nat} {typed typed' : Bool} {e : Expr}

lemma EndsOperand.endsName (h : EndsOperand rest) : EndsName rest := by
  match rest, h with
  | .sign _ :: _, h => exact ⟨h.1, h.2.1⟩
  | .word _ :: _, _ => trivial
  | [], _ => trivial

lemma EndsPhrase.endsOperand (h : EndsPhrase lv typed rest) : EndsOperand rest := by
  match rest, h with
  | .sign _ :: _, h => exact ⟨h.1, h.2.1, h.2.2.1, h.2.2.2.1⟩
  | .word _ :: _, _ => trivial
  | [], _ => trivial

lemma EndsPhrase.mono {lv' : Nat} (hlv : lv ≤ lv') (htyped : typed' = true → typed = true)
    (h : EndsPhrase lv typed rest) : EndsPhrase lv' typed' rest := by
  match rest, h with
  | .sign _ :: _, ⟨hparen, hpath, hdot, hitem, hops, htypes⟩ =>
    exact ⟨hparen, hpath, hdot, hitem, fun op hop => Nat.le_trans (hops op hop) hlv,
      fun ht => htypes (htyped ht)⟩
  | .word _ :: _, h => exact Nat.le_trans h hlv
  | [], _ => trivial

/-- Nothing is read on before what may end a name, and does not go on with a field or an item. -/
lemma suffixes_of_endsOperand (h : EndsOperand rest) : suffixes e rest = some (e, rest) := by
  rw [suffixes.eq_def]
  split
  · exact absurd rfl h.2.2.1
  · exact absurd rfl h.2.2.2
  · exact absurd rfl h.1
  · rfl

lemma level_le_leftLevel (op : BinOp) : level op ≤ leftLevel op := by
  unfold leftLevel
  split <;> omega

lemma level_lt_castLevel (op : BinOp) : level op < castLevel := by
  cases op <;> decide

lemma leftLevel_le_castLevel (op : BinOp) : leftLevel op ≤ castLevel := by
  cases op <;> decide

/-- Reading stops before operators that bind less tightly than asked for. -/
lemma more_of_endsPhrase {reached : Nat} (hlv : lv < castLevel) (h : EndsPhrase lv typed rest) :
    more (lv + 1) reached e rest = some (e, rest) := by
  rw [more.eq_def]
  split
  · exact absurd h (Nat.not_le.2 hlv)
  · rename_i s rest
    split
    · rename_i op hop
      have hlevel : level op < lv + 1 :=
        Nat.lt_succ_of_le (Nat.le_trans (level_le_leftLevel op) (h.2.2.2.2.1 op hop))
      rw [if_pos hlevel]
    · rfl
  · rfl

/-- Do the tokens close what was opened before them, or is there nothing left? -/
def Closes : List Token → Prop
  | [] => True
  | .sign s :: _ => s = ")" ∨ s = "]" ∨ s = ","
  | _ => False

lemma signs_of_closes {s : String} (h : s = ")" ∨ s = "]" ∨ s = ",") : signs.get? s = none := by
  rcases h with rfl | rfl | rfl <;> decide

lemma Closes.endsPhrase (h : Closes rest) (lv : Nat) (typed : Bool) : EndsPhrase lv typed rest := by
  match rest, h with
  | [], _ => trivial
  | .sign s :: _, h =>
    have hsign := signs_of_closes h
    rcases h with rfl | rfl | rfl <;> simp [EndsPhrase, hsign]

lemma more_of_closes {least reached : Nat} (h : Closes rest) :
    more least reached e rest = some (e, rest) := by
  match rest, h with
  | [], _ => rw [more.eq_def]
  | .sign s :: _, h =>
    rw [more.eq_def]
    simp [signs_of_closes h]

/-! ## From the tightest to the loosest -/

lemma Term.operand (h : Term ts e) : Operand ts e := by
  intro rest hrest
  rw [h rest hrest.endsName, suffixes_of_endsOperand hrest]

lemma Operand.length_pos (h : Operand ts e) : 0 < ts.length := by
  cases ts with
  | nil =>
    have hread := h [] trivial
    rw [nil_append, operand.eq_def] at hread
    cases hread
  | cons => exact Nat.succ_pos _

lemma Operand.phrase (h : Operand ts e) (hlv : lv ≤ castLevel) (typed : Bool) :
    Phrase lv typed ts e := by
  intro rest hrest least _
  refine ⟨top, Nat.le_trans hlv (by decide), ?_⟩
  have hlength : rest.length < (ts ++ rest).length := by
    have hpos := h.length_pos
    rw [length_append]
    omega
  rw [expr.eq_def, h rest hrest.endsOperand]
  exact if_pos hlength

lemma Phrase.mono {lv' : Nat} (hlv : lv' ≤ lv) (htyped : typed = true → typed' = true)
    (h : Phrase lv typed ts e) : Phrase lv' typed' ts e := by
  intro rest hrest least hleast
  obtain ⟨reached, hreached, heq⟩ :=
    h rest (hrest.mono hlv htyped) least (Nat.le_trans hleast hlv)
  exact ⟨reached, Nat.le_trans hlv hreached, heq⟩

lemma Phrase.expr_zero (h : Phrase lv typed ts e) (rest : List Token) (hrest : Closes rest) :
    expr 0 (ts ++ rest) = some (e, rest) := by
  obtain ⟨reached, -, heq⟩ := h rest (hrest.endsPhrase lv typed) 0 (Nat.zero_le lv)
  rw [heq, more_of_closes hrest]

lemma Phrase.parse {lv : Nat} {typed : Bool} {text : String} {e : Expr}
    (h : Phrase lv typed (tokens text) e) : parse text = some e := by
  have hread := h.expr_zero [] trivial
  rw [append_nil] at hread
  rw [Target.parse, hread]

/-! ## Terms -/

lemma Term.word {w : String} (h : atom? w = some e) : Term [.word w] e := by
  intro rest _
  rw [singleton_append, operand.eq_def]
  simp [h]

lemma Term.paren (h : Phrase lv typed ts e) : Term (.sign "(" :: ts ++ [.sign ")"]) e := by
  intro rest _
  have hread := h.expr_zero (.sign ")" :: rest) (.inl rfl)
  rw [cons_append, cons_append, append_assoc, operand.eq_def]
  simp [hread]
  omega

lemma Term.field (h : Term ts e) {member : String} (hmember : isFraction e member = false) :
    Term (ts ++ [.sign ".", .word member]) (.field e member) := by
  intro rest hrest
  rw [append_assoc, h _ (by simp [EndsName]), suffixes.eq_def]
  simp only [cons_append, nil_append]
  rw [memberOf.eq_def]
  split
  · exact absurd rfl hrest.1
  · exact absurd rfl hrest.2
  · rw [if_neg (by simp [hmember])]

lemma Term.index {i : Expr} (h : Term ts e) (hi : Phrase lv typed us i) :
    Term (ts ++ .sign "[" :: us ++ [.sign "]"]) (.index e i) := by
  intro rest _
  have hread := hi.expr_zero (.sign "]" :: rest) (.inr (.inl rfl))
  rw [append_assoc, append_assoc, h _ (by simp [EndsName]), suffixes.eq_def]
  simp [hread]
  omega

def Arguments (ts : List Token) (args : List Expr) : Prop :=
  ∀ rest, arguments (ts ++ .sign ")" :: rest) = some (args, rest)

lemma Arguments.nil : Arguments [] [] := by
  intro rest
  rw [nil_append, arguments.eq_def]
  rfl

lemma expr_closing (least : Nat) (rest : List Token) : expr least (.sign ")" :: rest) = none := by
  rw [expr.eq_def, operand.eq_def]
  rfl

lemma Arguments.one (h : Phrase lv typed ts e) : Arguments ts [e] := by
  intro rest
  have hread := h.expr_zero (.sign ")" :: rest) (.inl rfl)
  rw [arguments.eq_def]
  split
  · rename_i heq
    rw [heq, expr_closing] at hread
    cases hread
  · simp [hread]

lemma Term.call {f : String} (hf : atom? f = some e) {args : List Expr}
    (hargs : Arguments us args) :
    Term (.word f :: .sign "(" :: us ++ [.sign ")"]) (.call e args) := by
  intro rest _
  rw [append_assoc, cons_append, cons_append, operand.eq_def]
  simp only [hf, Option.bind_eq_bind, Option.bind_some]
  rw [suffixes.eq_def]
  simp [hargs rest]
  omega

lemma Term.method {args : List Expr} (h : Term ts e) (name : String) (hargs : Arguments us args) :
    Term (ts ++ .sign "." :: .word name :: .sign "(" :: us ++ [.sign ")"])
      (.method e name none args) := by
  intro rest _
  rw [append_assoc, append_assoc, h _ (by simp [EndsName]), suffixes.eq_def]
  simp only [cons_append, nil_append]
  rw [memberOf.eq_def]
  simp [hargs rest]
  omega

lemma Term.typedMethod (h : Term ts e) (name type : String) :
    Term (ts ++ [.sign ".", .word name, .sign "::", .sign "<", .word type, .sign ">", .sign "(",
      .sign ")"]) (.method e name (some type) []) := by
  intro rest _
  rw [append_assoc, h _ (by simp [EndsName]), suffixes.eq_def]
  simp only [cons_append, nil_append]
  rw [memberOf.eq_def]
  have hread := Arguments.nil rest
  rw [nil_append] at hread
  simp [hread]

/-! ## Operands -/

lemma Operand.inFront {s : String} {apply : Expr → Expr} (hs : inFront? s = some apply)
    (h : Operand ts e) : Operand (.sign s :: ts) (apply e) := by
  intro rest hrest
  rw [cons_append, operand.eq_def]
  split
  · rename_i heq
    cases heq
    cases hs
  · rename_i s' rest' _ heq
    cases heq
    simp [hs, h rest hrest]
  · rename_i heq
    cases heq
  · rename_i hsign _
    exact absurd rfl (hsign s (ts ++ rest))

/-! ## Phrases -/

lemma Phrase.cast (h : Phrase castLevel typed ts e) (type : String) :
    Phrase castLevel true (ts ++ [.word "as", .word type]) (.cast e type) := by
  intro rest hrest least hleast
  obtain ⟨reached, -, heq⟩ := h (.word "as" :: .word type :: rest) (Nat.le_refl castLevel) least hleast
  refine ⟨castLevel, Nat.le_refl castLevel, ?_⟩
  have htypes : opensTypes rest = false := by
    match rest, hrest with
    | .sign _ :: _, h => simpa [opensTypes] using h.2.2.2.2.2 rfl
    | .word _ :: _, _ => rfl
    | [], _ => rfl
  rw [append_assoc, cons_append, singleton_append, heq, more.eq_def]
  simp [htypes]

/-- The operands of an operator bind at its level, from which the right one has to bind tighter.
After a type no angle bracket can stand. -/
lemma Phrase.binary {op : BinOp} {s : String} {l r : Expr} (hs : signs.get? s = some op)
    (hl : Phrase lv typed ts l) (hlv : leftLevel op ≤ lv)
    (htyped : typed = true → s ≠ "<" ∧ s ≠ "<<") (hr : Phrase (level op + 1) typed' us r) :
    Phrase (level op) true (ts ++ .sign s :: us) (.binary op l r) := by
  intro rest hrest least hleast
  refine ⟨level op, Nat.le_refl (level op), ?_⟩
  -- The right operand ends where the whole operation ends.
  have hright : expr (level op + 1) (us ++ rest) = some (r, rest) := by
    obtain ⟨reached, -, heq⟩ :=
      hr rest (hrest.mono (by omega) fun _ => rfl) (level op + 1) (Nat.le_refl _)
    rw [heq, more_of_endsPhrase (level_lt_castLevel op) hrest]
  have hfollows : EndsPhrase lv typed (.sign s :: (us ++ rest)) := by
    refine ⟨?_, ?_, ?_, ?_, ?_, htyped⟩
    · rintro rfl; cases hs
    · rintro rfl; cases hs
    · rintro rfl; cases hs
    · rintro rfl; cases hs
    · intro op' hop'
      cases hs.symm.trans hop'
      exact hlv
  obtain ⟨reached, hreached, heq⟩ := hl _ hfollows least (by
    have := level_le_leftLevel op
    omega)
  rw [append_assoc, cons_append, heq, more.eq_def]
  have hlevel : ¬ level op < least := by omega
  have hleft : ¬ reached < leftLevel op := by omega
  simp [hs, hlevel, hleft, hright]

end Oxidize.Target
