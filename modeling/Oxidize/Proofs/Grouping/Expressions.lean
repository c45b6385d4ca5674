import Oxidize.Proofs.Grouping.Spelled

/-!
# What is written for an expression is read as it should be

An expression whose operands bind tightly enough, all the way down, is written as a text that is
read as what it should be read as (`parse_expr`). Most of the work is in operations with two
operands: the rules for lengths look at the written operands, and they find what the operands say.
-/

namespace Oxidize.Emit

open IR (Expr BinOp UnOp)
open Target (Reads Encloses Starts)
open Target (top bareCalls openCalls level castLevel parse prefixLevel)
open List

section

variable {c : Context} {op : BinOp} {l r : Expr} {left right : String} {line : IR.Line}

/-! ## Lengths -/

/-- A length is written so that the rules find it, and nothing else is taken for one. -/
lemma Spelled.lengthReceiver? {e : Expr} {code : String} (h : Spelled c e code)
    (hlength : endsInLength c e = true → (lengthOf? e).isSome = true) :
    (lengthOf? e = none ∧ lengthReceiver? code = none) ∨
      ∃ x inner, lengthOf? e = some x ∧ lengthReceiver? code = some inner ∧ Receives x inner := by
  cases hx : lengthOf? e with
  | some x =>
    obtain ⟨inner, type, rfl, htype, hinner⟩ := h.receiver x hx
    exact .inr ⟨x, inner, rfl, lengthReceiver?_len htype inner, hinner⟩
  | none =>
    refine .inl ⟨rfl, ?_⟩
    cases hreceiver : Emit.lengthReceiver? code with
    | none => rfl
    | some inner =>
      obtain ⟨tail, htail, hsuffix⟩ := exists_suffix_of_lengthReceiver? hreceiver
      have hsome := hlength (h.length tail htail hsuffix)
      rw [hx] at hsome
      cases hsome

variable {e x : Expr} {code inner s : String}

lemma Spelled.beq_toString (h : Spelled c e code) (n : Nat) : (code == toString n) = isInt e n := by
  rw [Bool.eq_iff_iff, beq_iff_eq]
  exact h.int n

/-- A question is asked about the text exactly if it is asked about the expression. -/
lemma Spelled.asked {e : Expr} {code : String} (h : Spelled c e code) (asked : Option Bool)
    (hlength : asked.isSome = true → endsInLength c e = true → (lengthOf? e).isSome = true) :
    (((lengthOf? e).bind fun x => asked.map (x, ·)) = none ∧
      ((Emit.lengthReceiver? code).bind fun x => asked.map (emptyQuestion x)) = none) ∨
    ∃ x empty inner, ((lengthOf? e).bind fun x => asked.map (x, ·)) = some (x, empty) ∧
      ((Emit.lengthReceiver? code).bind fun x => asked.map (emptyQuestion x)) =
        some (emptyQuestion inner empty) ∧ Receives x inner := by
  cases asked with
  | none => exact .inl ⟨by simp, by simp⟩
  | some empty =>
    rcases h.lengthReceiver? (hlength rfl) with ⟨hnone, hcode⟩ | ⟨x, inner, hsome, hcode, hinner⟩
    · rw [hnone, hcode]
      exact .inl ⟨rfl, rfl⟩
    · rw [hsome, hcode]
      exact .inr ⟨x, empty, inner, rfl, rfl, hinner⟩

/-- A comparison of a length with a constant is found in the text exactly if the expression is
one. -/
lemma Spelled.emptyComparison (hl : Spelled c l left) (hr : Spelled c r right)
    (hfits : FitsSymbol c op l r) :
    (emptiness? op l r = none ∧ emptyComparison op left right = none) ∨
    ∃ x empty inner, emptiness? op l r = some (x, empty) ∧
      emptyComparison op left right = some (emptyQuestion inner empty) ∧ Receives x inner := by
  have hzero : (right == "0") = isInt r 0 := hr.beq_toString 0
  have hone : (right == "1") = isInt r 1 := hr.beq_toString 1
  have hzero' : (left == "0") = isInt l 0 := hl.beq_toString 0
  rw [Emit.emptyComparison, hzero, hone, hzero', emptiness?]
  have haskl := hl.asked (askedLeft op (isInt r 0) (isInt r 1))
    (fun h => hfits.lengthLeft (by simp [asksLeft, h]))
  have haskr := hr.asked (askedRight op (isInt l 0))
    (fun h => hfits.lengthRight (by simp [asksRight, h]))
  rcases haskl with ⟨hnone, hcode⟩ | ⟨x, empty, inner, hsome, hcode, hinner⟩
  · rw [hnone, hcode]
    exact haskr
  · rw [hsome, hcode]
    exact .inr ⟨x, empty, inner, rfl, rfl, hinner⟩

/-- A length is compared with a variable by its text exactly if the expressions are these. -/
lemma Spelled.lengthComparison (hl : Spelled c l left) (hr : Spelled c r right)
    (hfits : FitsSymbol c op l r) (hop : isComparison op = true) :
    (∃ x inner, l.name?.isSome = true ∧ lengthOf? r = some x ∧ Receives x inner ∧
      lengthComparison op l r left right =
        some ("(" ++ left ++ " as usize) " ++ (symbol? op).getD "<" ++ " " ++ inner ++ ".len()")) ∨
    (∃ x inner, r.name?.isSome = true ∧ lengthOf? l = some x ∧ Receives x inner ∧
      lengthComparison op l r left right =
        some (inner ++ ".len() " ++ (symbol? op).getD "<" ++ " (" ++ right ++ " as usize)")) ∨
    (lengthComparison op l r left right = none ∧
      ((lengthOf? l).isSome = true → r.name?.isSome = false)) := by
  have hname : ∀ {e : Expr}, e.name?.isSome = true → lengthOf? e = none := by
    intro e he
    cases e with
    | name n line => rfl
    | _ => cases he
  unfold Emit.lengthComparison
  rw [hop, if_pos rfl]
  have hfindl (h : r.name?.isSome = true) := hl.lengthReceiver? (hfits.lengthLeft (by simp [asksLeft, hop, h]))
  have hfindr (h : l.name?.isSome = true) := hr.lengthReceiver? (hfits.lengthRight (by simp [asksRight, hop, h]))
  cases hnamel : l.name? with
  | some n =>
    rw [hnamel] at hfindr
    have hlengthl : lengthOf? l = none := hname (by simp [hnamel])
    rcases hfindr rfl with ⟨-, hcode⟩ | ⟨x, inner, hsome, hcode, hinner⟩
    · refine .inr (.inr ⟨?_, by simp [hlengthl]⟩)
      rw [hcode]
      cases hnamer : r.name? with
      | none => rfl
      | some m =>
        rw [hnamer] at hfindl
        rcases hfindl rfl with ⟨-, hcode'⟩ | ⟨x, inner, hsome, -, -⟩
        · rw [hcode']
        · rw [hlengthl] at hsome
          cases hsome
    · rw [hcode]
      exact .inl ⟨x, inner, rfl, hsome, hinner, rfl⟩
  | none =>
    cases hnamer : r.name? with
    | none => exact .inr (.inr ⟨rfl, fun _ => rfl⟩)
    | some m =>
      rw [hnamer] at hfindl
      rcases hfindl rfl with ⟨hnone, hcode⟩ | ⟨x, inner, hsome, hcode, hinner⟩
      · rw [hcode]
        exact .inr (.inr ⟨rfl, by simp [hnone]⟩)
      · rw [hcode]
        exact .inr (.inl ⟨x, inner, rfl, hsome, hinner, rfl⟩)

/-! ## Questions and paths -/

/-- The length of a collection is asked of the whole of it, and so is whether it is empty. -/
lemma Receives.reads_length (h : Receives x inner) : ∃ t, Renders x t ∧
    Reads top false (inner ++ ".len()") (.method t "len" none []) ∧
      ∀ empty typed, Reads (if empty then top else prefixLevel) typed (emptyQuestion inner empty)
        (question t empty) := by
  obtain ⟨⟨t, hrender, hread⟩, -⟩ := h
  have hmethod : Reads top false (inner ++ ".is_empty()") (.method t "is_empty" none []) :=
    hread.method (Nat.le_refl _) (by simp [bareCalls])
  refine ⟨t, hrender, hread.method (Nat.le_refl _) (by simp [bareCalls]), fun empty typed => ?_⟩
  cases empty with
  | true => exact hmethod.typedAs (by decide) _
  | false =>
    have hnot := hmethod.inFront (s := "!") (by decide) (by simp) rfl
    rw [← String.append_assoc] at hnot
    exact hnot.typedAs (by decide) _

variable {typed typed' : Bool} {tl tr : Target.Expr}

/-- A rule that asks whether a collection is empty keeps the collection together. -/
lemma spelled_question {empty : Bool} (hjoin : joinsPath c op l = false)
    (hempty : emptiness? op l r = some (x, empty)) (hinner : Receives x inner) :
    Spelled c (.binary op l r line) (emptyQuestion inner empty) := by
  obtain ⟨t, hrender, -, hquestion⟩ := hinner.reads_length
  refine .ofNoEnding (d := '.') ⟨question t empty, .question line hempty hrender, ?_⟩ ?_ ?_ ?_ (by decide)
    rfl rfl
  · rw [binding, hjoin, if_neg Bool.false_ne_true, hempty]
    exact hquestion empty _
  · cases empty <;> exact noEnding_tail (by simp) _
  · cases empty with
    | true => exact not_opensSome_append hinner.unwrapped (by decide) (by decide)
    | false => exact not_opensSome_of_head (d := '!') (by simp [emptyQuestion]) (by decide)
  · cases empty <;> simp [emptyQuestion]

lemma Spelled.joined (hl : Spelled c l left) (hr : Spelled c r right)
    (hjoin : joinsPath c op l = true) :
    Spelled c (.binary op l r line) (left ++ ".join(" ++ right ++ ")") := by
  obtain ⟨tl, hrenderl, hreadl⟩ := hl.reads
  obtain ⟨tr, hrenderr, hreadr⟩ := hr.reads
  obtain rfl : op = .div := by
    cases op with
    | div => rfl
    | _ => cases hjoin
  have htop : binding c l = top := by
    cases l with
    | name n line => rfl
    | _ => cases hjoin
  rw [htop] at hreadl
  have hread : Reads top false (left ++ ".join(" ++ right ++ ")") (.method tl "join" none [tr]) :=
    hreadl.methodOf (Nat.le_refl _) hreadr.encloses (by simp [openCalls])
  refine .ofNoEnding (d := '.') ⟨_, .joined line hrenderl hrenderr, ?_⟩ (noEnding_close hreadr.ends _)
    ?_ (by simp) (by decide) rfl rfl
  · rw [binding, hjoin, if_pos rfl]
    exact hread.typedAs (by decide) _
  · rw [String.append_assoc, String.append_assoc]
    exact hl.not_opensSome_append (htop ▸ by decide) (by simp) (by simp)

/-! ## Operations that are written with an operator -/

lemma Spelled.ofOperator {op' : BinOp} {lv lv' : Nat} {lo ro : String}
    (hs : Target.signs.get? s = some op')
    (hrender : Renders (.binary op l r line) (.binary op' tl tr)) (hl : Reads lv typed lo tl)
    (hr : Reads lv' typed' ro tr) (hlv : Target.leftLevel op' ≤ lv) (hlv' : level op' < lv')
    (htyped : typed = true → s ≠ "<" ∧ s ≠ "<<")
    (hbinding : binding c (.binary op l r line) = level op')
    (hlength : ∀ tail ∈ lengthEndings, tail.toList <:+ ro.toList → endsInLength c (.binary op l r
      line) = true) (howned : isOwnedText ro = false)
    (hopen : opensSome lo = true → wrapsLeft c (.binary op l r line) = true) :
    Spelled c (.binary op l r line) (lo ++ " " ++ s ++ " " ++ ro) := by
  have hkey : s ∈ Target.signs.keys := mem_map.2 ⟨_, Table.mem_of_get? hs, rfl⟩
  have hending : ∀ tail ∈ endings, tail.toList <:+ (lo ++ " " ++ s ++ " " ++ ro).toList →
      tail.toList <:+ ro.toList := fun tail htail h => suffix_of_operation htail hkey h
  have hnumber : isNumber (lo ++ " " ++ s ++ " " ++ ro) = false :=
    not_isNumber_of_mem (d := ' ') (by simp) (by decide)
  refine ⟨⟨_, hrender, ?_⟩, ?_, not_isOwnedText_of_suffix hending howned, nofun, ?_, hnumber,
    int_of_not_number hnumber rfl⟩
  · rw [hbinding]
    exact hl.binary hr hs hlv hlv' htyped
  · exact fun tail htail h => hlength tail htail (hending tail (mem_cons_of_mem _ htail) h)
  · intro h
    refine hopen (opensSome_of_append (b := " " ++ s ++ " " ++ ro) ?_ ?_ ?_)
    · simp
    · simp
    · simpa only [String.append_assoc] using h

lemma castLevel_le_binding (h : e.isBinary = false) : castLevel ≤ binding c e := by
  have hpostfix : ∀ cast : Bool, castLevel ≤ if cast then castLevel else top := by
    decide
  cases e with
  | binary op l r line => cases h
  | unary op x line => exact Nat.le_trans (by decide) (Nat.le_refl Target.prefixLevel)
  | call func args kwargs line => exact hpostfix (isCast (.call func args kwargs line))
  | _ => exact hpostfix false

/-- An operand is read on its own, since an operation has parentheses. -/
lemma Spelled.operand (h : Spelled c e code) :
    ∃ t lv, Renders e t ∧ castLevel ≤ lv ∧ Reads lv (isCast e) (enclosed e code) t := by
  obtain ⟨t, hrender, hread⟩ := h.reads
  unfold enclosed
  cases hbinary : e.isBinary with
  | true =>
    have hcast : isCast e = false := by
      cases e with
      | binary op l r line => rfl
      | _ => cases hbinary
    rw [hcast]
    exact ⟨t, top, hrender, by decide, Reads.paren hread.encloses⟩
  | false =>
    rw [hbinary, Bool.or_false] at hread
    exact ⟨t, _, hrender, castLevel_le_binding hbinary, hread⟩

lemma Renders.eq_name {n : String} (h : Renders e (.name n)) : ∃ line, e = .name n line := by
  generalize ht : Target.Expr.name n = t at h
  cases h with
  | name n line =>
    cases ht
    exact ⟨line, rfl⟩
  | @question op l r x empty t line hempty hx => cases empty <;> cases ht
  | _ => cases ht

/-- A value that is compared with an optional variable is wrapped, unless one inside of it was. -/
lemma Spelled.wrapped_eq (h : Spelled c e code) (hnone : ∀ line, e ≠ .name "None" line)
    (hwraps : wrapsLeft c e = false) : Emit.wrapped code = "Some(" ++ code ++ ")" := by
  have hopen : opensSome code = false := by
    cases hopen : opensSome code with
    | false => rfl
    | true => exact absurd (h.wrapped hopen) (ne_true_of_eq_false hwraps)
  have hcode : (code == "None") = false := by
    refine beq_false_of_ne ?_
    rintro rfl
    obtain ⟨t, hrender, hread⟩ := h.reads
    have hparse : parse "None" = some (.name "None") :=
      (Reads.word (by decide) (by decide) rfl).parse
    obtain rfl : t = .name "None" := Option.some.inj (hread.parse.symm.trans hparse)
    obtain ⟨line, rfl⟩ := hrender.eq_name
    exact hnone line rfl
  rw [Emit.wrapped, hcode, show Text.startsWith code "Some(" = false from hopen]
  rfl

/-- A wrapped operand is read as a call of the constructor, whether or not it has parentheses. -/
lemma Spelled.wrapped_operand (h : Spelled c e code) : ∃ t, Renders e t ∧
      Reads top false (enclosed e ("Some(" ++ code ++ ")")) (.call (.name "Some") [t]) := by
  obtain ⟨t, hrender, hread⟩ := h.reads
  have hcall : Reads top false ("Some(" ++ code ++ ")") (.call (.name "Some") [t]) :=
    Reads.callOf hread.encloses (by decide) rfl
  refine ⟨t, hrender, ?_⟩
  unfold enclosed
  split
  · exact Reads.paren hcall.encloses
  · exact hcall

lemma suffix_of_enclosed {tail : String} (hends : Target.Ends code) (htail : tail ∈ endings)
    (h : tail.toList <:+ (enclosed e code).toList) :
    e.isBinary = false ∧ tail.toList <:+ code.toList := by
  unfold enclosed at h
  cases hbinary : e.isBinary with
  | true =>
    rw [hbinary] at h
    exact absurd h (noEnding_close hends "(" tail htail)
  | false =>
    rw [hbinary] at h
    exact ⟨rfl, h⟩

lemma equated_eq (c : Context) (l r : Expr) (left right : String) : equated c l r left right =
      if isOptionVar c l then (left, wrapped right)
      else if isOptionVar c r then (wrapped left, right) else (left, right) := by
  cases hl : l.name? <;> cases hr : r.name? <;> simp [equated, isOptionVar, hl, hr]

lemma Spelled.ofSymbol {lv lv' : Nat} {lo ro : String} (hs : symbol? op = some s)
    (hjoin : joinsPath c op l = false) (hempty : emptiness? op l r = none)
    (hrender : Renders (.binary op l r line) (.binary op tl tr)) (hl : Reads lv typed lo tl)
    (hr : Reads lv' typed' ro tr) (hlv : castLevel ≤ lv) (hlv' : castLevel ≤ lv')
    (htyped : typed = true → op ≠ .lt ∧ op ≠ .lshift)
    (hlength : ∀ tail ∈ lengthEndings, tail.toList <:+ ro.toList → r.isBinary = false ∧ endsInLength
      c r = true) (howned : isOwnedText ro = false)
    (hopen : opensSome lo = true → wrapsLeft c (.binary op l r line) = true) :
    Spelled c (.binary op l r line) (lo ++ " " ++ s ++ " " ++ ro) := by
  have hlevel := Target.level_lt_castLevel op
  have hleft := Target.leftLevel_le_castLevel op
  refine .ofOperator (signs_of_symbol hs) hrender hl hr (by omega) (by omega) ?_ ?_ ?_ howned hopen
  · intro htype
    obtain ⟨hlt, hshift⟩ := htyped htype
    constructor
    · rintro rfl
      exact hlt (Option.some.inj ((signs_of_symbol hs).symm.trans (by decide)))
    · rintro rfl
      exact hshift (Option.some.inj ((signs_of_symbol hs).symm.trans (by decide)))
  · rw [binding, hjoin, if_neg Bool.false_ne_true, hempty]
    cases op <;> first | rfl | cases hs
  · intro tail htail hsuffix
    obtain ⟨hbinary, hends⟩ := hlength tail htail hsuffix
    simp [endsInLength, hjoin, hempty, hends, hbinary, hs]

/-- An operation with a symbol. The side that meets an optional variable is wrapped. -/
lemma Spelled.symbol (hl : Spelled c l left) (hr : Spelled c r right) (hs : symbol? op = some s)
    (hjoin : joinsPath c op l = false) (hempty : emptiness? op l r = none)
    (hfits : FitsSymbol c op l r) (hnonel : ∀ line, l ≠ .name "None" line)
    (hnoner : ∀ line, r ≠ .name "None" line)
    (hlength : isComparison op = true → (lengthOf? l).isSome = true → r.name?.isSome = false) :
    Spelled c (.binary op l r line) (symbolOperation c op l r left right) := by
  obtain ⟨tl, lv, hrenderl, hlv, hreadl⟩ := hl.operand
  obtain ⟨tr, lv', hrenderr, hlv', hreadr⟩ := hr.operand
  have hends : Target.Ends right := by
    obtain ⟨t, -, hread⟩ := hr.reads
    exact hread.ends
  have htyped : isCast l = true → op ≠ .lt ∧ op ≠ .lshift := by
    intro hcast
    constructor
    · rintro rfl
      obtain ⟨-, hlen, hname⟩ := hfits.type (.inl rfl) hcast
      exact absurd hname (ne_true_of_eq_false (hlength rfl hlen))
    · rintro rfl
      obtain ⟨hop, -, -⟩ := hfits.type (.inr rfl) hcast
      cases hop
  have hlengthr : ∀ tail ∈ lengthEndings, tail.toList <:+ (enclosed r right).toList →
      r.isBinary = false ∧ endsInLength c r = true := by
    intro tail htail hsuffix
    obtain ⟨hbinary, hsuffix⟩ := suffix_of_enclosed hends (mem_cons_of_mem _ htail) hsuffix
    exact ⟨hbinary, hr.length tail htail hsuffix⟩
  have hownedr : isOwnedText (enclosed r right) = false :=
    not_isOwnedText_of_suffix (fun tail htail h => (suffix_of_enclosed hends htail h).2) hr.owned
  -- An operand that is written as it is begins with the constructor only if it is an operation, and
  -- then it has parentheses.
  have hopenl : opensSome (enclosed l left) = true → wrapsLeft c (.binary op l r line) = true := by
    intro hopen
    unfold enclosed at hopen
    cases hbinary : l.isBinary with
    | true =>
      rw [hbinary] at hopen
      have hhead : ("(" ++ left ++ ")").toList.head? = some '(' := by simp
      exact absurd hopen (ne_true_of_eq_false (not_opensSome_of_head hhead (by decide)))
    | false =>
      rw [hbinary] at hopen
      have hwraps := hl.wrapped hopen
      cases l with
      | binary => cases hbinary
      | _ => cases hwraps
  have hplain : equated c l r left right = (left, right) ∨ isEquality op = false →
      Spelled c (.binary op l r line) (symbolOperation c op l r left right) := by
    intro hequated
    have htext : symbolOperation c op l r left right =
        enclosed l left ++ " " ++ s ++ " " ++ enclosed r right := by
      rcases hequated with hequated | hop
      · exact symbolOperation_eq hs hequated
      · cases op <;> cases hs <;> first | rfl | cases hop
    rw [htext]
    exact .ofSymbol hs hjoin hempty (.binary op line (by simp [hs]) hrenderl hrenderr) hreadl hreadr
      hlv hlv' htyped hlengthr hownedr hopenl
  cases hop : isEquality op with
  | false => exact hplain (.inr hop)
  | true =>
    have heq : op = .eq ∨ op = .ne := by
      cases op <;> first | exact .inl rfl | exact .inr rfl | cases hop
    have htext : symbolOperation c op l r left right =
        enclosed l (equated c l r left right).1 ++ " " ++ s ++ " " ++
          enclosed r (equated c l r left right).2 := by
      rcases heq with rfl | rfl <;> cases hs <;> rfl
    cases hvarl : isOptionVar c l with
    | true =>
      obtain ⟨tr, hrenderr, hreadr⟩ := hr.wrapped_operand
      have hequated : equated c l r left right = (left, "Some(" ++ right ++ ")") := by
        rw [equated_eq, hvarl, hr.wrapped_eq hnoner (hfits.optionRight hop hvarl)]
        rfl
      have hending : NoEnding (enclosed r ("Some(" ++ right ++ ")")) := by
        intro tail htail hsuffix
        have hclose : Target.Ends ("Some(" ++ right ++ ")") := Target.brackets_apart.2.1.append _
        exact noEnding_close hends _ tail htail (suffix_of_enclosed hclose htail hsuffix).2
      rw [htext, hequated]
      exact .ofSymbol hs hjoin hempty (.wrappedRight line heq hrenderl hrenderr) hreadl hreadr hlv
        (by decide) htyped (hending.length _) hending.isOwnedText hopenl
    | false =>
      cases hvarr : isOptionVar c r with
      | false =>
        refine hplain (.inl ?_)
        rw [equated_eq, hvarl, hvarr]
        rfl
      | true =>
        obtain ⟨tl, hrenderl, hreadl⟩ := hl.wrapped_operand
        have hequated : equated c l r left right = ("Some(" ++ left ++ ")", right) := by
          rw [equated_eq, hvarl, hvarr, hl.wrapped_eq hnonel (hfits.optionLeft hop hvarl hvarr)]
          rfl
        rw [htext, hequated]
        exact .ofSymbol hs hjoin hempty (.wrappedLeft line heq hrenderl hrenderr) hreadl hreadr
          (by decide) hlv' (by simp) hlengthr hownedr (fun _ => by simp [wrapsLeft, hop, hvarl, hvarr])

/-! ## Comparisons of lengths with variables -/

lemma Spelled.converted (h : Spelled c e code) (hname : e.name?.isSome = true) :
    ∃ t, Renders e t ∧ NoEnding ("(" ++ code ++ " as usize)") ∧
      Reads top false ("(" ++ code ++ " as usize)") (.cast t "usize") := by
  obtain ⟨t, hrender, hread⟩ := h.reads
  rw [binding_of_name hname] at hread
  have hcast : Reads castLevel true (code ++ " as " ++ "usize") (.cast t "usize") :=
    hread.cast (by decide) (by simp [intTypes])
  have htext : "(" ++ code ++ " as usize)" = "(" ++ (code ++ " as " ++ "usize") ++ ")" := by
    simp only [String.append_assoc]
    rfl
  rw [htext]
  exact ⟨t, hrender, noEnding_close hcast.ends _, Reads.paren hcast.encloses⟩

lemma lengthRight_text : "(" ++ left ++ " as usize) " ++ s ++ " " ++ inner ++ ".len()" =
    "(" ++ left ++ " as usize)" ++ " " ++ s ++ " " ++ (inner ++ ".len()") := by
  simp only [String.append_assoc]
  rfl

lemma lengthLeft_text : inner ++ ".len() " ++ s ++ " (" ++ right ++ " as usize)" =
    inner ++ ".len()" ++ " " ++ s ++ " " ++ ("(" ++ right ++ " as usize)") := by
  simp only [String.append_assoc]
  rfl

lemma Spelled.lengthRight (hl : Spelled c l left) (hs : symbol? op = some s)
    (hop : isComparison op = true) (hjoin : joinsPath c op l = false)
    (hempty : emptiness? op l r = none) (hname : l.name?.isSome = true) (hx : lengthOf? r = some x)
    (hinner : Receives x inner) :
    Spelled c (.binary op l r line) ("(" ++ left ++ " as usize) " ++ s ++ " " ++ inner ++ ".len()") := by
  obtain ⟨tl, hrenderl, -, hreadl⟩ := hl.converted hname
  obtain ⟨t, hrender, hlen, -⟩ := hinner.reads_length
  have hlength : r.isBinary = false ∧ endsInLength c r = true := by
    unfold lengthOf? at hx
    split at hx
    · exact ⟨rfl, rfl⟩
    · cases hx
  have howned : isOwnedText (inner ++ ".len()") = false := by
    rw [← Bool.not_eq_true, isOwnedText_iff]
    exact not_suffix_append inner (by decide)
  have hopen : opensSome ("(" ++ left ++ " as usize)") = false :=
    not_opensSome_of_head (d := '(') (by simp) (by decide)
  rw [lengthRight_text]
  refine .ofSymbol hs hjoin hempty (.lengthRight line hop hx hrenderl hrender) hreadl hlen (by decide)
    (by decide) (by simp) (fun _ _ _ => hlength) howned fun h => nomatch hopen.symm.trans h

lemma Spelled.lengthLeft (hr : Spelled c r right) (hs : symbol? op = some s)
    (hop : isComparison op = true) (hjoin : joinsPath c op l = false)
    (hempty : emptiness? op l r = none) (hname : r.name?.isSome = true) (hx : lengthOf? l = some x)
    (hinner : Receives x inner) :
    Spelled c (.binary op l r line) (inner ++ ".len() " ++ s ++ " (" ++ right ++ " as usize)") := by
  obtain ⟨tr, hrenderr, hending, hreadr⟩ := hr.converted hname
  obtain ⟨t, hrender, hlen, -⟩ := hinner.reads_length
  have hopen : opensSome (inner ++ ".len()") = false :=
    Emit.not_opensSome_append hinner.unwrapped (by decide) (by decide)
  rw [lengthLeft_text]
  refine .ofSymbol hs hjoin hempty (.lengthLeft line hop hx hrender hrenderr) hlen hreadr (by decide)
    (by decide) (by simp) (hending.length _) hending.isOwnedText fun h => nomatch hopen.symm.trans h

/-! ## Operations that are written by a word -/

lemma asked_of_not_comparison (hop : isComparison op = false) :
    (∀ isZero isOne, askedLeft op isZero isOne = none) ∧ ∀ isZero, askedRight op isZero = none := by
  cases op <;> first | decide | cases hop

lemma emptiness?_of_not_comparison (hop : isComparison op = false) (l r : Expr) :
    emptiness? op l r = none := by
  obtain ⟨hl, hr⟩ := asked_of_not_comparison hop
  simp [emptiness?, hl, hr]

lemma Spelled.floorDiv (hl : Spelled c l left) (hr : Spelled c r right)
    (hfits : FitsOperation c .floorDiv l r) :
    Spelled c (.binary .floorDiv l r line) (left ++ " / " ++ right) := by
  obtain ⟨tl, hrenderl, hreadl⟩ := hl.reads
  obtain ⟨tr, hrenderr, hreadr⟩ := hr.reads
  have hempty : emptiness? .floorDiv l r = none := emptiness?_of_not_comparison rfl l r
  have htext : left ++ " / " ++ right = left ++ " " ++ "/" ++ " " ++ right := by
    simp only [String.append_assoc]
    rfl
  rw [htext]
  have hsign : Target.signs.get? "/" = some .div := by decide
  refine .ofOperator hsign (.floorDiv line hrenderl hrenderr) hreadl hreadr hfits.1
    (Nat.lt_of_lt_of_le (by decide) hfits.2) (fun _ => by decide) ?_ ?_ hr.owned ?_
  · rw [binding, hempty]
    rfl
  · intro tail htail hsuffix
    rw [endsInLength, hempty, hr.length tail htail hsuffix]
    rfl
  · exact fun hopen => absurd hopen (ne_true_of_eq_false (hl.not_opensSome hfits.1))

lemma Spelled.pow (hl : Spelled c l left) (hr : Spelled c r right)
    (hfits : FitsOperation c .pow l r) : Spelled c (.binary .pow l r line)
      (if l.isBinary then "((" ++ left ++ ") as f64).powf(" ++ right ++ " as f64)"
        else "(" ++ left ++ " as f64).powf(" ++ right ++ " as f64)") := by
  obtain ⟨tl, hrenderl, hreadl⟩ := hl.reads
  obtain ⟨tr, hrenderr, hreadr⟩ := hr.reads
  have hcast : Reads castLevel true (right ++ " as " ++ "f64") (.cast tr "f64") :=
    hreadr.cast hfits.2 (by simp)
  -- Both forms are the text of a conversion in parentheses.
  obtain ⟨lo, htext, hlo⟩ : ∃ lo, (if l.isBinary then "((" ++ left ++ ") as f64).powf(" ++ right ++ " as f64)"
        else "(" ++ left ++ " as f64).powf(" ++ right ++ " as f64)") =
        "(" ++ lo ++ ")" ++ ".powf(" ++ (right ++ " as " ++ "f64") ++ ")" ∧
      Reads castLevel true lo (.cast tl "f64") := by
    cases hbinary : l.isBinary with
    | true =>
      refine ⟨"(" ++ left ++ ")" ++ " as " ++ "f64", ?_,
        (Reads.paren hreadl.encloses).cast (by decide) (by simp)⟩
      simp only [if_true, String.append_assoc]
      rfl
    | false =>
      have hlv : castLevel ≤ binding c l := hfits.1.resolve_left (by simp [hbinary])
      refine ⟨left ++ " as " ++ "f64", ?_, hreadl.cast hlv (by simp)⟩
      simp only [Bool.false_eq_true, if_false, String.append_assoc]
      rfl
  have hread : Reads top false
      ("(" ++ lo ++ ")" ++ ".powf(" ++ (right ++ " as " ++ "f64") ++ ")")
      (.method (.cast tl "f64") "powf" none [.cast tr "f64"]) :=
    (Reads.paren hlo.encloses).methodOf (Nat.le_refl _) hcast.encloses (by simp [openCalls])
  rw [htext]
  refine .ofNoEnding (d := '.') ⟨_, .pow line hrenderl hrenderr, ?_⟩ (noEnding_close hcast.ends _) ?_
    (by simp) (by decide) rfl rfl
  · rw [binding, emptiness?_of_not_comparison rfl]
    exact hread.typedAs (by decide) _
  · exact not_opensSome_of_head (d := '(') (by simp) (by decide)

lemma Spelled.contains (hl : Spelled c l left) (hr : Spelled c r right)
    (hfits : FitsOperation c .mem l r) :
    Spelled c (.binary .mem l r line) (right ++ ".contains(&" ++ left ++ ")") ∧
      Spelled c (.binary .notMem l r line) ("!" ++ right ++ ".contains(&" ++ left ++ ")") := by
  obtain ⟨tl, hrenderl, hreadl⟩ := hl.reads
  obtain ⟨tr, hrenderr, hreadr⟩ := hr.reads
  have hread : Reads top false (right ++ ".contains(" ++ ("&" ++ left) ++ ")")
      (.method tr "contains" none [.borrow tl]) :=
    hreadr.methodOf hfits.2 (hreadl.borrowed hfits.1) (by simp [openCalls])
  have htext : right ++ ".contains(" ++ ("&" ++ left) ++ ")" = right ++ ".contains(&" ++ left ++ ")" := by
    simp only [String.append_assoc]
    rfl
  rw [htext] at hread
  refine ⟨?_, ?_⟩
  · refine .ofNoEnding (d := '.') ⟨_, .mem line hrenderl hrenderr, ?_⟩ (noEnding_close hreadl.ends _) ?_
      (by simp) (by decide) rfl rfl
    · rw [binding, emptiness?_of_not_comparison rfl]
      exact hread.typedAs (by decide) _
    · rw [String.append_assoc, String.append_assoc]
      exact hr.not_opensSome_append (Nat.le_trans (by decide) hfits.2) (by simp) (by simp)
  · have hnot := hread.inFront (s := "!") (by decide) (by simp) rfl
    simp only [← String.append_assoc] at hnot
    refine .ofNoEnding (d := '.') ⟨_, .notMem line hrenderl hrenderr, ?_⟩
      (noEnding_close hreadl.ends _) ?_ (by simp) (by decide) rfl rfl
    · rw [binding, emptiness?_of_not_comparison rfl]
      exact hnot.typedAs (by decide) _
    · exact not_opensSome_of_head (d := '!') (by simp) (by decide)

/-! ## Operations -/

lemma Spelled.operation (hl : Spelled c l left) (hr : Spelled c r right)
    (hop : op ≠ .is ∧ op ≠ .isNot) (hfits : Fits c (.binary op l r line))
    (hnonel : ∀ line, l ≠ .name "None" line) (hnoner : ∀ line, r ≠ .name "None" line) :
    Spelled c (.binary op l r line) (operation c op l r left right) := by
  rw [Emit.operation]
  cases hjoin : joinsPath c op l with
  | true => exact hl.joined hr hjoin
  | false =>
    rw [if_neg Bool.false_ne_true]
    have hfits := hfits hjoin
    -- An operator that is written as a word asks for no length.
    have hword : isComparison op = false → Emit.emptyComparison op left right = none ∧
        Emit.lengthComparison op l r left right = none := by
      intro hop
      obtain ⟨haskl, haskr⟩ := asked_of_not_comparison hop
      refine ⟨by simp [Emit.emptyComparison, haskl, haskr], ?_⟩
      rw [Emit.lengthComparison, hop, if_neg Bool.false_ne_true]
    cases hs : symbol? op with
    | none =>
      have hnot : isComparison op = false := by
        cases op with
        | floorDiv | pow | mem | notMem | is | isNot => rfl
        | _ => cases hs
      rw [(hword hnot).1, (hword hnot).2]
      cases op with
      | floorDiv => exact hl.floorDiv hr hfits
      | pow => exact hl.pow hr hfits
      | mem => exact (hl.contains hr hfits).1
      | notMem => exact (hl.contains hr hfits).2
      | is => exact absurd rfl hop.1
      | isNot => exact absurd rfl hop.2
      | _ => cases hs
    | some s =>
      have hfits : FitsSymbol c op l r := by
        cases op with
        | floorDiv | pow | mem | notMem | is | isNot => cases hs
        | _ => exact hfits
      have hnone : wordOperation op l left right = none :=
        wordOperation_of_symbol (by simp [hs]) hl.owned hr.owned
      rcases hl.emptyComparison hr hfits with ⟨hempty, hcode⟩ | ⟨x, empty, inner, hempty, hcode, hinner⟩
      · have hsymbol : (isComparison op = true → (lengthOf? l).isSome = true →
            r.name?.isSome = false) →
            Spelled c (.binary op l r line) (symbolOperation c op l r left right) :=
          hl.symbol hr hs hjoin hempty hfits hnonel hnoner
        rw [hcode]
        cases hcmp : isComparison op with
        | false =>
          rw [(hword hcmp).2, hnone]
          exact hsymbol fun h => absurd h (ne_true_of_eq_false hcmp)
        | true =>
          have hsign : (symbol? op).getD "<" = s := by rw [hs]; rfl
          have hlength := hl.lengthComparison hr hfits hcmp
          rw [hsign] at hlength
          rcases hlength with ⟨x, inner, hname, hx, hinner, hcode⟩ |
            ⟨x, inner, hname, hx, hinner, hcode⟩ | ⟨hcode, hlength⟩
          · rw [hcode]
            exact hl.lengthRight hs hcmp hjoin hempty hname hx hinner
          · rw [hcode]
            exact hr.lengthLeft hs hcmp hjoin hempty hname hx hinner
          · rw [hcode, hnone]
            exact hsymbol fun _ => hlength
      · rw [hcode]
        exact spelled_question hjoin hempty hinner

end

/-! ## Expressions -/

section

variable {c : Context} {packages : Table Package} {e : Expr} {P Q : Expr → Prop}

lemma Throughout.imp (h : Throughout P e) (hPQ : ∀ e, P e → Q e) : Throughout Q e := by
  induction h with
  | intro he _ ih => exact .intro (hPQ _ he) ih

lemma Throughout.and (hP : Throughout P e) (hQ : Throughout Q e) :
    Throughout (fun e => P e ∧ Q e) e := by
  induction hP with
  | intro hp _ ih =>
    obtain ⟨hq, hoperands⟩ := hQ
    exact .intro ⟨hp, hq⟩ fun x hx => ih x hx (hoperands x hx)

/-- What is written by a template is no search, no slice and not the absent value. -/
lemma Templated.of_form (h : Templated c packages e) :
    searched e = none ∧ (∀ lower upper step line, e ≠ .slice lower upper step line) ∧
      (∀ line, e ≠ .name "None" line) ∧ ∀ number, tupleField? e = some number →
        ∃ (n : Nat) (line : IR.Line), e = .literal (.int n) line ∧ number = toString n := by
  refine ⟨?_, ?_, ?_, ?_⟩
  · cases e with
    | method => exact h.elim
    | _ => rfl
  · rintro lower upper step line rfl
    exact h
  · rintro line rfl
    have husable : Stub.isUsableName "None" = true := h.usable
    revert husable
    decide
  · intro number hnumber
    cases e with
    | literal value line =>
      cases value with
      | int i =>
        obtain ⟨n, rfl⟩ := Int.eq_ofNat_of_zero_le h
        exact ⟨n, line, rfl, (Option.some.inj hnumber).symm⟩
      | _ => exact h.elim
    | _ => cases hnumber

lemma subscript_gives {x i : Expr} {code index : String} {line : IR.Line}
    (hx : Gives c packages (expr x) code) (hi : Gives c packages (expr i) index)
    (hslice : ∀ lower upper step line, i ≠ .slice lower upper step line) :
    Gives c packages (expr (.subscript x i line)) (item c x i code index) := by
  rw [expr]
  · exact hx.bind (hi.bind (Gives.read (Gives.pure _)))
  · exact hslice

/-- An expression whose operands bind tightly enough is written so that they are kept together. -/
lemma exists_spelled (h : Throughout (fun e => Templated c packages e ∧ Fits c e) e) :
    ∃ code, Gives c packages (expr e) code ∧ Spelled c e code := by
  induction h with
  | @intro e he hoperands ih =>
    obtain ⟨hform, hfits⟩ := he
    cases e with
    | name n line => exact spelled_name hform line
    | literal value line =>
      cases value with
      | int i => exact spelled_number hform line
      | _ => exact hform.elim
    | unary op x line =>
      obtain ⟨code, hgive, hx⟩ := ih x (by simp [templateOperands])
      exact ⟨_, unary_gives hgive, hx.unary hform hfits line⟩
    | binary op l r line =>
      obtain ⟨left, hgivel, hl⟩ := ih l (by simp [templateOperands])
      obtain ⟨right, hgiver, hr⟩ := ih r (by simp [templateOperands])
      obtain ⟨⟨hforml, -⟩, -⟩ := hoperands l (by simp [templateOperands])
      obtain ⟨⟨hformr, -⟩, -⟩ := hoperands r (by simp [templateOperands])
      obtain ⟨hsearch, -, hnonel, -⟩ := hforml.of_form
      obtain ⟨-, -, hnoner, -⟩ := hformr.of_form
      exact ⟨_, binary_gives hsearch hgivel hgiver, hl.operation hr hform hfits hnonel hnoner⟩
    | call func args kwargs line =>
      obtain ⟨f, nameLine, x, rfl, rfl, rfl, hf⟩ := hform.of_call
      obtain ⟨code, hgive, hx⟩ := ih x (by simp [templateOperands])
      exact spelled_call hf hgive hx nameLine line hfits
    | attr x member line =>
      obtain ⟨code, hgive, hx⟩ := ih x (by simp [templateOperands])
      have hall : Throughout (Templated c packages) (.attr x member line) :=
        .intro hform fun x hx => (hoperands x hx).imp fun _ h => h.1
      exact spelled_attr hall hgive hx hfits
    | subscript x i line =>
      obtain ⟨code, hgivex, hx⟩ := ih x (by simp [templateOperands])
      obtain ⟨index, hgivei, hi⟩ := ih i (by simp [templateOperands])
      obtain ⟨⟨hformi, -⟩, -⟩ := hoperands i (by simp [templateOperands])
      obtain ⟨-, hslice, -, hnumber⟩ := hformi.of_form
      exact ⟨_, subscript_gives hgivex hgivei hslice, hx.item hi hfits hnumber line⟩
    | _ => exact hform.elim

end

/-- What is written for an expression whose operands bind tightly enough, all the way down, is read
with every operator, conversion, method call and index applied to the whole of its operand. -/
theorem parse_expr {em : Emitter} {e : Expr}
    (hform : Throughout (Templated em.ctx em.resolver.registry.packages) e)
    (hfits : Throughout (Fits em.ctx) e) :
    ∃ code em' t, em.run (expr e) = (.ok code, em') ∧ parse code = some t ∧ Renders e t := by
  obtain ⟨code, hgive, hspelled⟩ := exists_spelled (hform.and hfits)
  obtain ⟨em', hrun, -, -⟩ := hgive em rfl rfl
  obtain ⟨t, hrender, hread⟩ := hspelled.reads
  exact ⟨code, em', t, hrun, hread.parse, hrender⟩

lemma throughout_name {n : String} (h : Stub.isUsableName n = true) (line : IR.Line) :
    Throughout (Templated {} []) (.name n line) ∧ Throughout (Fits {}) (.name n line) :=
  ⟨.intro ⟨h, rfl⟩ nofun, .intro trivial nofun⟩

/-- The comparison `(a - len(xs)) ** 2 < float(p.size)`. -/
def templatedComparison : Expr :=
  .binary .lt (.binary .pow
      (.binary .sub (.name "a" none) (.call (.name "len" none) [.name "xs" none] [] none) none)
      (.literal (.int 2) none) none)
    (.call (.name "float" none) [.attr (.name "p" none) "size" none] [] none) none

lemma throughout_templatedComparison :
    Throughout (Templated {} []) templatedComparison ∧ Throughout (Fits {}) templatedComparison := by
  have husable : ∀ n ∈ ["a", "xs", "p", "size"], Stub.isUsableName n = true := by decide
  obtain ⟨hforma, hfitsa⟩ := throughout_name (husable "a" (by simp)) none
  obtain ⟨hformxs, hfitsxs⟩ := throughout_name (husable "xs" (by simp)) none
  obtain ⟨hformp, hfitsp⟩ := throughout_name (husable "p" (by simp)) none
  have hbuiltin : ∀ f ∈ ["len", "float", "int"], IsBuiltin {} f :=
    fun f hf => ⟨hf, rfl, rfl, rfl, rfl⟩
  have hfield : ∀ n, (Expr.name "p" none).name? = some n → IsField {} [] n "size" := by
    rintro _ ⟨⟩
    exact ⟨by decide, nofun, rfl, rfl⟩
  refine ⟨?_, ?_⟩
  · refine .intro ⟨nofun, nofun⟩ (forall_mem_cons.2 ⟨?_, forall_mem_singleton.2 ?_⟩)
    · refine .intro ⟨nofun, nofun⟩ (forall_mem_cons.2 ⟨?_, forall_mem_singleton.2 ?_⟩)
      · refine .intro ⟨nofun, nofun⟩
          (forall_mem_cons.2 ⟨hforma, forall_mem_singleton.2 ?_⟩)
        exact .intro (hbuiltin "len" (by simp)) (forall_mem_singleton.2 hformxs)
      · exact .intro (Int.natCast_nonneg 2) nofun
    · refine .intro (hbuiltin "float" (by simp)) (forall_mem_singleton.2 ?_)
      exact .intro ⟨husable "size" (by simp), hfield⟩ (forall_mem_singleton.2 hformp)
  · refine .intro (fun _ => ⟨by decide, by decide, by decide, by decide, by decide⟩)
      (forall_mem_cons.2 ⟨?_, forall_mem_singleton.2 ?_⟩)
    · refine .intro (fun _ => ⟨.inl rfl, (by decide : castLevel ≤ top)⟩) (forall_mem_cons.2 ⟨?_, forall_mem_singleton.2 ?_⟩)
      · refine .intro (fun _ => ⟨by decide, by decide, by decide, by decide, by decide⟩)
          (forall_mem_cons.2 ⟨hfitsa, forall_mem_singleton.2 ?_⟩)
        exact .intro (.inr (Nat.le_refl _)) (forall_mem_singleton.2 hfitsxs)
      · exact .intro trivial nofun
    · refine .intro (by decide : castLevel ≤ top) (forall_mem_singleton.2 ?_)
      exact .intro (Nat.le_refl _) (forall_mem_singleton.2 hfitsp)

theorem parse_expr_templatedComparison :
    Throughout (Templated {} []) templatedComparison ∧ Throughout (Fits {}) templatedComparison ∧
      ∃ code em' t, Emitter.run {} (expr templatedComparison) = (.ok code, em') ∧
        parse code = some t ∧ Renders templatedComparison t :=
  ⟨throughout_templatedComparison.1, throughout_templatedComparison.2,
    parse_expr throughout_templatedComparison.1 throughout_templatedComparison.2⟩

def floorDivision : Expr :=
  .binary .floorDiv (.binary .add (.name "a" none) (.name "b" none) none) (.name "c" none) none

/-- A division is written without parentheses around its operands, so only the last term of a sum is
divided. -/
theorem not_renders_floorDivision : Throughout (Templated {} []) floorDivision ∧
    Emitter.run {} (expr floorDivision) = (.ok "a + b / c", {}) ∧
      ∃ t, parse "a + b / c" = some t ∧ ¬ Renders floorDivision t := by
  have husable : ∀ n ∈ ["a", "b", "c"], Stub.isUsableName n = true := by decide
  have hname : ∀ n ∈ ["a", "b", "c"], Throughout (Templated {} []) (.name n none) :=
    fun n hn => (throughout_name (husable n hn) none).1
  have hread : ∀ n ∈ ["a", "b", "c"], Reads top false n (.name n) :=
    fun n hn => reads_name (husable n hn)
  have hdiv : Reads (level .div) true "b / c" (.binary .div (.name "b") (.name "c")) :=
    (hread "b" (by simp)).binary (s := "/") (hread "c" (by simp)) rfl (by decide) (by decide) nofun
  have hsum : Reads (level .add) true "a + b / c"
      (.binary .add (.name "a") (.binary .div (.name "b") (.name "c"))) :=
    (hread "a" (by simp)).binary (s := "+") hdiv rfl (by decide) (by decide) nofun
  refine ⟨?_, rfl, _, hsum.parse, ?_⟩
  · refine .intro ⟨nofun, nofun⟩ (forall_mem_cons.2 ⟨?_, forall_mem_singleton.2 ?_⟩)
    · exact .intro ⟨nofun, nofun⟩ (forall_mem_cons.2
        ⟨hname "a" (by simp), forall_mem_singleton.2 (hname "b" (by simp))⟩)
    · exact hname "c" (by simp)
  · intro h
    generalize ht : Target.Expr.binary .add (.name "a") (.binary .div (.name "b") (.name "c")) = t at h
    cases h with
    | @question op l r x empty t line hempty hx => cases empty <;> cases ht
    | wrappedLeft line hop hl hr => rcases hop with hop | hop <;> cases hop
    | wrappedRight line hop hl hr => rcases hop with hop | hop <;> cases hop
    | _ => cases ht

end Oxidize.Emit
