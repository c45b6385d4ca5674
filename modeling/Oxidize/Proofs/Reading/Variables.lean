import Mathlib.Data.List.Forall2
import Oxidize.Proofs.Reading.Methods
import Oxidize.Proofs.Reading.Operators

/-!
# Variables of a written expression

An expression has operands, and the rule it is written by decides which of them are written
(`operands`): a call that no rule knows leaves out its named arguments, a print all arguments but
the first one, a slice its step. What is reached from an expression through operands that are
written is a part of it (`Part`). A variable that is a part stands in the written text, and every
other occurrence of a variable is inside of an operand of a part that is left out (`name_written`).
-/

namespace Oxidize

open List
open IR (Expr BinOp)

variable {receiver : Expr}

/-! ## Names of an expression -/

namespace IR

mutual

/-- The names that occur in an expression, names of called functions included. -/
def Expr.names : Expr → List String
  | .absent | .literal .. | .other .. => []
  | .name n _ => [n]
  | .binary _ a b _ | .subscript a b _ => a.names ++ b.names
  | .unary _ e _ | .attr e _ _ | .formatted e _ _ | .await e _ => e.names
  | .call e args kwargs _ | .method e _ args kwargs _ =>
    e.names ++ namesAll args ++ namesNamed kwargs
  | .slice a b c _ | .ifExp a b c _ => a.names ++ b.names ++ c.names
  | .list e _ | .set e _ | .tuple e _ | .fstring e _ => namesAll e
  | .dict entries _ => namesEntries entries
  | .listComp element _ source conditions _ =>
    source.names ++ element.names ++ namesAll conditions

def namesAll : List Expr → List String
  | [] => []
  | e :: es => e.names ++ namesAll es

def namesNamed : Table Expr → List String
  | [] => []
  | (_, value) :: rest => value.names ++ namesNamed rest

def namesEntries : List (Expr × Expr) → List String
  | [] => []
  | (key, value) :: rest => key.names ++ value.names ++ namesEntries rest

end

variable {x : String}

lemma mem_namesAll {es : List Expr} : x ∈ namesAll es ↔ ∃ e ∈ es, x ∈ e.names := by
  induction es with
  | nil => simp [namesAll]
  | cons e es ih => simp [namesAll, ih]

lemma mem_namesNamed {kwargs : Table Expr} :
    x ∈ namesNamed kwargs ↔ ∃ entry ∈ kwargs, x ∈ entry.2.names := by
  induction kwargs with
  | nil => simp [namesNamed]
  | cons entry kwargs ih => simp [namesNamed, ih]

lemma mem_namesEntries {entries : List (Expr × Expr)} :
    x ∈ namesEntries entries ↔ ∃ entry ∈ entries, x ∈ entry.1.names ∨ x ∈ entry.2.names := by
  induction entries with
  | nil => simp [namesEntries]
  | cons entry entries ih => simp [namesEntries, ih, or_assoc]

end IR

namespace Emit

/-! ## Operands that are written -/

abbrev Operand := Bool × Expr

def callOperands (k : Kept) (receiver : Expr) (args : List Expr) (kwargs : Table Expr) :
    List Operand :=
  (k.receiver, receiver) :: ((args.zipIdx.map fun (arg, i) => (k.args i, arg)) ++
      kwargs.map fun (key, value) => (k.named key, value))

/-- What the search for a text keeps that is written as a question. -/
def searchOperands : Expr → List Operand
  | .method obj _ args kwargs _ => callOperands (.withReceiver 1) obj args kwargs
  | _ => []

def formatOperand : Expr → Operand
  | .literal value line => (false, .literal value line)
  | .formatted value _ _ => (true, value)
  | part => (true, part)

def keepsObject (e : Emitter) (member : String) : Expr → Bool
  | .name n _ =>
    if (e.found (nativeMapping? n (some member))).isSome then false
    else if (e.found (lookup (Library.mapping? n member))).isSome then false
    else
      match (e.ctx.typeEnv.get? n).bind fun type =>
          Library.calendarMethod? s!"{Context.lastPart type}.{member}" with
      | some m => Template.shows m.template.text "self"
      | none => !e.ctx.crateImports.has n
  | _ => true

def operands (e : Emitter) : Expr → List Operand
  | .absent | .literal .. | .name .. | .other .. => []
  | .binary op left right _ =>
    if (e.found (comparedSearch op (searched left) (expr right))).isSome then
      (false, right) :: searchOperands left
    else [(true, left), (true, right)]
  | .unary _ operand _ => [(true, operand)]
  | .call func args kwargs _ =>
    let texts := (e.given (exprs args)).getD []
    callOperands (callKept e func ⟨expr func, texts, namedExprs kwargs⟩) func args kwargs
  | .method obj method args kwargs _ =>
    let texts := (e.given (exprs args)).getD []
    callOperands (MethodCall.kept e ⟨obj, expr obj, method, args, texts, namedExprs kwargs⟩)
      obj args kwargs
  | .attr obj member _ => [(keepsObject e member obj, obj)]
  | .subscript obj (.slice lower upper step _) _ =>
    [(true, obj), (true, lower), (true, upper), (false, step)]
  | .subscript obj index _ => [(true, obj), ((tupleField? index).isNone, index)]
  | .slice lower upper step _ => [(false, lower), (false, upper), (false, step)]
  | .list elements _ | .set elements _ | .tuple elements _ => elements.map (true, ·)
  | .dict entries _ => entries.flatMap fun (key, value) => [(true, key), (true, value)]
  | .ifExp condition yes no _ => [(true, condition), (true, yes), (true, no)]
  | .listComp element _ source conditions _ =>
    (true, source) :: (true, element) :: conditions.map (true, ·)
  | .formatted value _ _ => [(false, value)]
  | .fstring parts _ => parts.map formatOperand
  | .await value _ => [(true, value)]

/-- What is reached from an expression through operands that are written. -/
inductive Part (e : Emitter) (root : Expr) : Expr → Prop
  | root : Part e root root
  | operand {part o : Expr} (hpart : Part e root part) (ho : (true, o) ∈ operands e part) :
    Part e root o

/-! ## From an operand to its expression -/

section Steps

variable {e : Emitter} {x text : String}

/-- Whatever the expression is written as, `x` stands in it. -/
def ShowsIn (e : Emitter) (x : String) (ex : Expr) : Prop :=
  ∀ text, Yields e (expr ex) text → Stands x text

variable {o ex obj : Expr} {args es : List Expr} {kwargs : Table Expr}
variable {texts : List String} {line : IR.Line}

lemma mem_callOperands {k : Kept} {kept : Bool}
    (h : (kept, o) ∈ callOperands k receiver args kwargs) :
    (k.receiver = kept ∧ receiver = o) ∨ (∃ i, k.args i = kept ∧ args[i]? = some o) ∨
      ∃ key, k.named key = kept ∧ (key, o) ∈ kwargs := by
  unfold callOperands at h
  rcases mem_cons.1 h with h | h
  · obtain ⟨rfl, rfl⟩ := Prod.mk.inj h
    exact .inl ⟨rfl, rfl⟩
  rcases mem_append.1 h with h | h
  · obtain ⟨⟨arg, i⟩, hmem, hpair⟩ := mem_map.1 h
    obtain ⟨rfl, rfl⟩ := Prod.mk.inj hpair
    exact .inr (.inl ⟨i, rfl, mem_zipIdx_iff_getElem?.1 hmem⟩)
  · obtain ⟨⟨key, value⟩, hmem, hpair⟩ := mem_map.1 h
    obtain ⟨rfl, rfl⟩ := Prod.mk.inj hpair
    exact .inr (.inr ⟨key, rfl, hmem⟩)

lemma forall₂_of_exprs (h : Yields e (exprs es) texts) :
    List.Forall₂ (fun ex text => Yields e (expr ex) text) es texts := by
  induction es generalizing texts with
  | nil =>
    rw [exprs] at h
    obtain rfl := h.eq_of_pure
    exact .nil
  | cons ex es ih =>
    rw [exprs] at h
    obtain ⟨code, hcode, h⟩ := h.bind (expr_free ex)
    obtain ⟨codes, hcodes, rfl⟩ := h.bind_pure (exprs_free es)
    exact .cons hcode (ih hcodes)

lemma exists_text_of_exprs {i : Nat} (h : Yields e (exprs es) texts) (hex : es[i]? = some ex) :
    ∃ text, texts[i]? = some text ∧ Yields e (expr ex) text := by
  obtain ⟨hlen, hall⟩ := List.forall₂_iff_get.1 (forall₂_of_exprs h)
  obtain ⟨hi, rfl⟩ := List.getElem?_eq_some_iff.1 hex
  exact ⟨texts[i], List.getElem?_eq_getElem (hlen ▸ hi), hall i hi (hlen ▸ hi)⟩

lemma mem_namedExprs {key : String} {value : Expr} (h : (key, value) ∈ kwargs) :
    (key, expr value) ∈ namedExprs kwargs := by
  induction kwargs with
  | nil => cases h
  | cons entry kwargs ih =>
    rw [namedExprs]
    rcases mem_cons.1 h with rfl | h
    · exact mem_cons_self
    · exact mem_cons_of_mem _ (ih h)

lemma covers_of_mem_callOperands {k : Kept}
    (ho : (true, o) ∈ callOperands k receiver args kwargs) (hx : ShowsIn e x o)
    (htexts : Yields e (exprs args) texts) :
    Covers e x ⟨expr receiver, texts, namedExprs kwargs⟩ k := by
  rcases mem_callOperands ho with ⟨hkept, rfl⟩ | ⟨i, hkept, harg⟩ | ⟨key, hkept, hmem⟩
  · exact .receiver hkept hx
  · obtain ⟨text, htext, hyields⟩ := exists_text_of_exprs htexts harg
    exact .arg i text hkept htext (hx text hyields)
  · exact .named key (expr o) (mem_namedExprs hmem) hkept hx

variable (hx : IsVariable x)
include hx

lemma stands_call {func : Expr} (ho : (true, o) ∈ operands e (.call func args kwargs line))
    (hshows : ShowsIn e x o) : ShowsIn e x (.call func args kwargs line) := by
  intro text h
  rw [expr] at h
  obtain ⟨texts, htexts, h⟩ := h.bind (exprs_free args)
  rw [operands] at ho
  rw [htexts.given_eq (exprs_free args), Option.getD_some] at ho
  have hsound : Sound e x ⟨expr func, texts, namedExprs kwargs⟩
      (callKept e func ⟨expr func, texts, namedExprs kwargs⟩) text :=
    call_sound hx (expr_free func) (namedExprs_free kwargs) h
  exact hsound (covers_of_mem_callOperands ho hshows htexts)

lemma stands_method {method : String}
    (ho : (true, o) ∈ operands e (.method obj method args kwargs line)) (hshows : ShowsIn e x o) :
    ShowsIn e x (.method obj method args kwargs line) := by
  intro text h
  rw [expr] at h
  obtain ⟨texts, htexts, h⟩ := h.bind (exprs_free args)
  rw [operands] at ho
  rw [htexts.given_eq (exprs_free args), Option.getD_some] at ho
  have hsound := MethodCall.emit_sound hx ⟨expr_free obj, namedExprs_free kwargs, Terms.free_elim⟩ h
  exact hsound (covers_of_mem_callOperands ho hshows htexts)

/-- A search that is written as a question writes the text and what is searched in it. -/
lemma stands_comparedSearch {op : BinOp} {left right : Expr}
    (ho : (true, o) ∈ searchOperands left) (hshows : ShowsIn e x o) {code : String}
    (h : Yields e (comparedSearch op (searched left) (expr right)) (some code)) :
    Stands x code := by
  obtain ⟨obj, method, args, kwargs, line, rfl⟩ :
      ∃ obj method args kwargs line, left = .method obj method args kwargs line := by
    cases left with
    | method obj method args kwargs line => exact ⟨obj, method, args, kwargs, line, rfl⟩
    | _ => cases ho
  unfold comparedSearch at h
  split at h
  · rename_i emitObj emitArg hparts
    obtain ⟨hobjPlain, hargPlain⟩ := searched_plain _ .free _ hparts
    obtain ⟨bound, -, h⟩ := h.bind (expr_free right)
    split at h
    · obtain ⟨objCode, hobj, h⟩ := h.bind hobjPlain
      obtain ⟨argCode, harg, h⟩ := h.bind hargPlain
      refine stands_searchComparison h.eq_of_pure.symm ?_
      rcases mem_callOperands ho with ⟨-, rfl⟩ | ⟨i, hkept, hmem⟩ | ⟨key, hkept, -⟩
      · left
        cases args with
        | nil | cons =>
          rw [searched] at hparts
          split at hparts <;> cases hparts
          exact hshows objCode hobj
      · right
        have hi : i < 1 := by simpa [Kept.withReceiver] using hkept
        obtain rfl : i = 0 := by omega
        cases args with
        | nil => cases hmem
        | cons arg args =>
          obtain rfl : arg = o := by simpa using hmem
          rw [searched] at hparts
          split at hparts <;> cases hparts
          obtain ⟨written, hwritten, rfl⟩ := harg.bind_pure (expr_free arg)
          exact (hshows written hwritten).borrow hx
      · cases hkept
    · cases h.eq_of_pure
  · cases h.eq_of_pure

lemma stands_binary {op : BinOp} {left right : Expr}
    (ho : (true, o) ∈ operands e (.binary op left right line)) (hshows : ShowsIn e x o) :
    ShowsIn e x (.binary op left right line) := by
  intro text h
  rw [expr] at h
  have hplain : Mild .free (comparedSearch op (searched left) (expr right)) :=
    (comparedSearch_plain op (searched_plain left .free) (expr_free right)).any
  obtain ⟨found, hfound, h⟩ := h.bind hplain
  rw [operands] at ho
  rw [hfound.found_eq hplain] at ho
  cases found with
  | some code =>
    obtain rfl := h.eq_of_pure
    have ho : (true, o) ∈ searchOperands left := by simpa using ho
    exact stands_comparedSearch hx ho hshows hfound
  | none =>
    obtain ⟨leftCode, hleft, h⟩ := h.bind (expr_free left)
    obtain ⟨rightCode, hright, h⟩ := h.bind (expr_free right)
    have h := h.context fun _ => rfl
    obtain rfl := h.eq_of_pure
    refine stands_operation hx ?_
    have ho : o = left ∨ o = right := by simpa using ho
    rcases ho with rfl | rfl
    · exact .inl (hshows leftCode hleft)
    · exact .inr (hshows rightCode hright)

omit hx in
lemma stands_memberOfName {n member code : String} {emitObj : Emit String}
    (hplain : Mild .free emitObj) (hkept : keepsObject e member (.name n line) = true)
    (hobj : ∀ text, Yields e emitObj text → Stands x text)
    (h : Yields e (memberOfName n member emitObj) (some code)) : Stands x code := by
  unfold memberOfName at h
  rw [keepsObject] at hkept
  obtain ⟨native, hnative, h⟩ := h.bind (nativeMapping?_plain n (some member))
  rw [hnative.found_eq (nativeMapping?_plain n (some member))] at hkept
  cases native with
  | some m => cases hkept
  | none =>
    have hmapping : Plain .light .free (Found Any) (lookup (Library.mapping? n member)) :=
      .lookup (mapping?_query n member)
    obtain ⟨mapping, hfound, h⟩ := h.bind hmapping
    rw [hfound.found_eq hmapping] at hkept
    cases mapping with
    | some m => cases hkept
    | none =>
      obtain ⟨calendar, hcalendar, h⟩ := h.bind (calendarField_plain n member hplain)
      unfold calendarField at hcalendar
      have hcalendar := hcalendar.context fun _ => rfl
      dsimp only at hcalendar
      split at hcalendar
      · rename_i m hm
        simp only [hm] at hkept
        obtain ⟨obj, hwritten, hcalendar⟩ := hcalendar.bind hplain
        obtain ⟨template, htemplate, hcalendar⟩ := hcalendar.bind (templateOf_plain .free)
        obtain ⟨_, -, rfl⟩ := hcalendar.bind_pure (needImports_plain .free)
        obtain rfl := Option.some.inj h.eq_of_pure
        have hshows : Template.shows template "self" = true := by
          rw [← Yields.templateOf htemplate]
          simpa using hkept
        exact Template.stands_fill Template.isHoleName_self (Template.hasPlace_of_shows hshows)
          (hobj obj hwritten)
      · rename_i hm
        simp only [hm] at hkept
        obtain rfl := hcalendar.eq_of_pure
        have h := h.context fun _ => rfl
        split at h
        · rename_i crate hcrate
          simp [Table.has_of_get? hcrate] at hkept
        · cases h.eq_of_pure

omit hx in
lemma stands_attr {member : String} (ho : (true, o) ∈ operands e (.attr obj member line))
    (hshows : ShowsIn e x o) : ShowsIn e x (.attr obj member line) := by
  intro text h
  rw [expr] at h
  unfold field at h
  rw [operands, mem_singleton] at ho
  obtain ⟨hkept, rfl⟩ := Prod.mk.inj ho
  obtain ⟨mapped, hmapped, h⟩ := h.bind (mappedField_plain o (expr_free o) member)
  cases mapped with
  | some code =>
    obtain rfl := h.eq_of_pure
    unfold mappedField at hmapped
    split at hmapped
    · exact stands_memberOfName (expr_free _) hkept.symm hshows hmapped
    · cases hmapped.eq_of_pure
  | none =>
    obtain ⟨type, -, h⟩ := h.bind (inferType_plain o)
    obtain ⟨objCode, hobj, h⟩ := h.bind (expr_free o)
    have hcode : Sealed x s!"{objCode}.{member}" := ((hshows objCode hobj).seal "." rfl).more _
    dsimp only at h
    rw [h.eq_of_pure]
    split
    · exact (hcode.more _).stands
    · exact hcode.stands

lemma stands_subscript {index : Expr} (ho : (true, o) ∈ operands e (.subscript obj index line))
    (hshows : ShowsIn e x o) : ShowsIn e x (.subscript obj index line) := by
  intro text h
  by_cases hslice : ∃ lower upper step line, index = .slice lower upper step line
  · obtain ⟨lower, upper, step, _, rfl⟩ := hslice
    rw [expr] at h
    obtain ⟨objCode, hobj, h⟩ := h.bind (expr_free obj)
    obtain ⟨lowerCode, hlower, h⟩ := h.bind (bound_plain lower (expr_free lower))
    obtain ⟨upperCode, hupper, rfl⟩ := h.bind_pure (bound_plain upper (expr_free upper))
    -- A bound that is left out is written as nothing, but there is no variable in it.
    have hbound {bound : Expr} {code : String} (hbound : Yields e (Emit.bound bound (expr bound)) code)
        (hshows : ShowsIn e x bound) : Stands x code := by
      cases bound with
      | absent =>
        have hunit := hshows "()" ⟨e, .refl e, by rw [expr]; rfl⟩
        exact (hunit.elim hx (by decide)).elim
      | _ => exact hshows code hbound
    have ho : o = obj ∨ o = lower ∨ o = upper := by simpa [operands] using ho
    refine stands_slice ?_
    rcases ho with rfl | rfl | rfl
    · exact .inl (hshows objCode hobj)
    · exact .inr (.inl (hbound hlower hshows))
    · exact .inr (.inr (hbound hupper hshows))
  · have hindex : ∀ lower upper step line, index = .slice lower upper step line → False :=
      fun lower upper step line heq => hslice ⟨lower, upper, step, line, heq⟩
    have ho : o = obj ∨ tupleField? index = none ∧ o = index := by
      rw [operands] at ho
      · simpa using ho
      · exact hindex
    rw [expr] at h
    · obtain ⟨objCode, hobj, h⟩ := h.bind (expr_free obj)
      obtain ⟨indexCode, hwritten, h⟩ := h.bind (expr_free index)
      have h := h.context fun _ => rfl
      obtain rfl := h.eq_of_pure
      refine stands_item hx ?_
      rcases ho with rfl | ⟨hfield, rfl⟩
      · exact .inl (hshows objCode hobj)
      · exact .inr ⟨hfield, hshows indexCode hwritten⟩
    · exact hindex

omit hx in
lemma stands_pairs {entries : List (Expr × Expr)} {key value : Expr}
    (hmem : (key, value) ∈ entries) (h : Yields e (pairs entries) texts)
    (hshows : ShowsIn e x key ∨ ShowsIn e x value) : ∃ text ∈ texts, Stands x text := by
  induction entries generalizing texts with
  | nil => cases hmem
  | cons entry entries ih =>
    rw [pairs] at h
    obtain ⟨keyCode, hkey, h⟩ := h.bind (expr_free entry.1)
    obtain ⟨valueCode, hvalue, h⟩ := h.bind (expr_free entry.2)
    obtain ⟨others, hothers, rfl⟩ := h.bind_pure (pairs_plain entries .free)
    rcases mem_cons.1 hmem with rfl | hmem
    · refine ⟨_, mem_cons_self, ?_⟩
      rcases hshows with hshows | hshows
      · exact (((((hshows keyCode hkey).behind "(" rfl).seal ", " rfl).more _).more _).stands
      · exact (((hshows valueCode hvalue).after _ ", " rfl).seal ")" rfl).stands
    · obtain ⟨text, htext, hstands⟩ := ih hmem hothers
      exact ⟨text, mem_cons_of_mem _ htext, hstands⟩

omit hx in
lemma exists_mem_of_exprs (hmem : ex ∈ es) (h : Yields e (exprs es) texts)
    (hshows : ShowsIn e x ex) : ∃ text ∈ texts, Stands x text := by
  obtain ⟨text, htext, hyields⟩ := exists_of_forall₂ (forall₂_of_exprs h) ex hmem
  exact ⟨text, htext, hshows text hyields⟩

omit hx in
lemma stands_elements {elements : List Expr} (hmem : o ∈ elements) (hshows : ShowsIn e x o)
    (left right : String)
    (h : Yields e (do return left ++ Text.commas (← exprs elements) ++ right) text)
    (hleft : Text.isOpening left = true) (hright : Text.isClosing right = true) :
    Stands x text := by
  obtain ⟨texts, htexts, rfl⟩ := h.bind_pure (exprs_free elements)
  obtain ⟨code, hcode, hstands⟩ := exists_mem_of_exprs hmem htexts hshows
  exact (((hstands.commas hcode).behind left hleft).seal right hright).stands

omit hx in
/-- A value that goes into a format string is one of its arguments. -/
lemma exists_mem_of_formatParts {parts : List Expr} {written : Table (Option String)}
    (ho : (true, o) ∈ parts.map formatOperand) (h : Yields e (formatParts parts) written) :
    ∃ hole code, (hole, some code) ∈ written ∧ Yields e (expr o) code := by
  induction parts generalizing written with
  | nil => cases ho
  | cons part parts ih =>
    have hlater {first : String × Option String} {others : Table (Option String)}
        (hothers : Yields e (formatParts parts) others) (ho : (true, o) ∈ parts.map formatOperand) :
        ∃ hole code, (hole, some code) ∈ first :: others ∧ Yields e (expr o) code := by
      obtain ⟨hole, code, hmem, hcode⟩ := ih ho hothers
      exact ⟨hole, code, mem_cons_of_mem _ hmem, hcode⟩
    rw [map_cons, mem_cons] at ho
    rw [formatParts.eq_def] at h
    split at h
    · cases ‹part :: parts = []›
    · cases ‹part :: parts = _›
      obtain ⟨others, hothers, rfl⟩ := h.bind_pure (formatParts_plain _ .free)
      rcases ho with ho | ho
      · cases ho
      · exact hlater hothers ho
    · cases ‹part :: parts = _›
      obtain ⟨code, hcode, h⟩ := h.bind (expr_free _)
      obtain ⟨others, hothers, rfl⟩ := h.bind_pure (formatParts_plain _ .free)
      rcases ho with ho | ho
      · cases ho
        exact ⟨_, code, mem_cons_self, hcode⟩
      · exact hlater hothers ho
    · rename_i hliteral hformatted heq
      cases heq
      obtain ⟨code, hcode, h⟩ := h.bind (expr_free _)
      obtain ⟨others, hothers, rfl⟩ := h.bind_pure (formatParts_plain _ .free)
      rcases ho with ho | ho
      · refine ⟨_, code, mem_cons_self, ?_⟩
        unfold formatOperand at ho
        split at ho <;> cases ho
        · exact absurd rfl (hformatted _ _ _)
        · exact hcode
      · exact hlater hothers ho

/-- What stands in an operand that is written stands in the written expression. -/
lemma showsIn_of_operand (ho : (true, o) ∈ operands e ex) (hshows : ShowsIn e x o) :
    ShowsIn e x ex := by
  cases ex with
  | absent | literal | name | other => cases ho
  | slice | formatted => simp [operands] at ho
  | binary => exact stands_binary hx ho hshows
  | call => exact stands_call hx ho hshows
  | method => exact stands_method hx ho hshows
  | attr => exact stands_attr ho hshows
  | subscript => exact stands_subscript hx ho hshows
  | unary op operand line =>
    intro text h
    rw [expr] at h
    obtain ⟨code, hcode, rfl⟩ := h.bind_pure (expr_free operand)
    obtain rfl : o = operand := by simpa [operands] using ho
    cases op with
    | neg => exact (hshows code hcode).behind "-" rfl
    | pos => exact (hshows code hcode).behind "+" rfl
    | not | bitNot => exact (hshows code hcode).behind "!" rfl
  | list elements line =>
    have hmem : o ∈ elements := by simpa [operands] using ho
    intro text h
    rw [expr] at h
    exact stands_elements hmem hshows "vec![" "]" h rfl rfl
  | set elements line =>
    have hmem : o ∈ elements := by simpa [operands] using ho
    intro text h
    rw [expr] at h
    exact stands_elements hmem hshows "HashSet::from([" "])" h rfl rfl
  | tuple elements line =>
    have hmem : o ∈ elements := by simpa [operands] using ho
    intro text h
    rw [expr] at h
    exact stands_elements hmem hshows "(" ")" h rfl rfl
  | dict entries line =>
    intro text h
    rw [expr] at h
    obtain ⟨key, value, hmem, ho⟩ : ∃ key value, (key, value) ∈ entries ∧ (o = key ∨ o = value) := by
      simpa [operands] using ho
    split at h
    · rename_i hempty
      rw [List.isEmpty_iff] at hempty
      simp [hempty] at hmem
    · obtain ⟨texts, htexts, rfl⟩ := h.bind_pure (pairs_plain entries .free)
      have hpair : ShowsIn e x key ∨ ShowsIn e x value := by
        rcases ho with rfl | rfl
        · exact .inl hshows
        · exact .inr hshows
      obtain ⟨code, hcode, hstands⟩ := stands_pairs hmem htexts hpair
      exact (((hstands.commas hcode).behind "HashMap::from([" rfl).seal "])" rfl).stands
  | ifExp condition yes no line =>
    intro text h
    rw [expr] at h
    obtain ⟨cond, hcond, h⟩ := h.bind (expr_free condition)
    obtain ⟨yesCode, hyes, h⟩ := h.bind (expr_free yes)
    obtain ⟨noCode, hno, rfl⟩ := h.bind_pure (expr_free no)
    have ho : o = condition ∨ o = yes ∨ o = no := by simpa [operands] using ho
    rcases ho with rfl | rfl | rfl
    · have hif := ((hshows cond hcond).behind "if " rfl).seal " \x7b " rfl
      exact ((((hif.more _).more _).more _).more _).stands
    · have hthen := (hshows yesCode hyes).after ("if " ++ cond) " \x7b " rfl
      exact (((hthen.seal " \x7d else \x7b " rfl).more _).more _).stands
    · exact (((hshows noCode hno).after _ " \x7d else \x7b " rfl).seal " \x7d" rfl).stands
  | listComp element target source conditions line =>
    intro text h
    rw [expr] at h
    obtain ⟨sourceCode, hsource, h⟩ := h.bind (expr_free source)
    obtain ⟨elementCode, helement, h⟩ := h.bind (expr_free element)
    obtain ⟨texts, htexts, rfl⟩ := h.bind_pure (exprs_free conditions)
    refine stands_comprehension ?_
    have ho : o = source ∨ o = element ∨ o ∈ conditions := by simpa [operands] using ho
    rcases ho with rfl | rfl | hmem
    · exact .inl (hshows sourceCode hsource)
    · exact .inr (.inl (hshows elementCode helement))
    · exact .inr (.inr (exists_mem_of_exprs hmem htexts hshows))
  | fstring parts line =>
    intro text h
    rw [expr] at h
    obtain ⟨written, hwritten, rfl⟩ := h.bind_pure (formatParts_plain parts .free)
    obtain ⟨hole, code, hmem, hcode⟩ := exists_mem_of_formatParts ho hwritten
    exact stands_formatCall hmem (hshows code hcode)
  | await value line =>
    intro text h
    rw [expr] at h
    obtain ⟨code, hcode, rfl⟩ := h.bind_pure (expr_free value)
    obtain rfl : o = value := by simpa [operands] using ho
    exact stands_awaited hx (hshows code hcode)

end Steps

/-! ## Parts that are written -/

lemma Part.showsIn {e : Emitter} {x : String} (hx : IsVariable x) {root part : Expr}
    (hpart : Part e root part) (hshows : ShowsIn e x part) : ShowsIn e x root := by
  induction hpart with
  | root => exact hshows
  | operand _ ho ih => exact ih (showsIn_of_operand hx ho hshows)

lemma eq_none_of_nativeMapping? {e : Emitter} {x : String} {found : Option Mapping}
    (hown : e.ctx.nativeImports.get? x = none) (h : Yields e (nativeMapping? x none) found) :
    found = none := by
  unfold nativeMapping? at h
  have h := h.context fun _ => rfl
  simp only [hown, Option.filter_none] at h
  exact h.eq_of_pure

/-- A name that is not imported from the native library is written as it is, perhaps taken out of
its option. -/
lemma showsIn_name {e : Emitter} {x : String} (hown : e.ctx.nativeImports.get? x = none)
    (line : IR.Line) : ShowsIn e x (.name x line) := by
  intro text h
  rw [expr] at h
  unfold nameValue at h
  have h := h.context fun _ => rfl
  split at h
  · obtain rfl := h.eq_of_pure
    exact ((Stands.self x).seal ".unwrap()" rfl).stands
  · obtain ⟨found, hfound, h⟩ := h.bind (nativeMapping?_plain x none)
    obtain rfl := eq_none_of_nativeMapping? hown hfound
    rw [h.eq_of_pure]
    exact Stands.self x

/-! ## Operands that are left out -/

section Lost

variable {e : Emitter} {x : String}

lemma exists_callOperand (k : Kept) {args : List Expr}
    {kwargs : Table Expr}
    (hmem : x ∈ receiver.names ++ IR.namesAll args ++ IR.namesNamed kwargs) :
    ∃ kept o, (kept, o) ∈ callOperands k receiver args kwargs ∧ x ∈ o.names ∧
      sizeOf o < 1 + sizeOf receiver + sizeOf args + sizeOf kwargs := by
  unfold callOperands
  rcases mem_append.1 hmem with hmem | hmem
  · rcases mem_append.1 hmem with hmem | hmem
    · exact ⟨_, receiver, mem_cons_self, hmem, by omega⟩
    · obtain ⟨arg, harg, hmem⟩ := IR.mem_namesAll.1 hmem
      have hsize := sizeOf_lt_of_mem harg
      obtain ⟨i, hi⟩ := mem_iff_getElem?.1 harg
      refine ⟨k.args i, arg, mem_cons_of_mem _ (mem_append_left _ ?_), hmem, by omega⟩
      exact mem_map.2 ⟨(arg, i), mem_zipIdx_iff_getElem?.2 hi, rfl⟩
  · obtain ⟨⟨key, value⟩, hentry, hmem⟩ := IR.mem_namesNamed.1 hmem
    have hsize := sizeOf_lt_of_mem hentry
    simp only [Prod.mk.sizeOf_spec] at hsize
    refine ⟨k.named key, value, mem_cons_of_mem _ (mem_append_right _ ?_), hmem, by omega⟩
    exact mem_map.2 ⟨(key, value), hentry, rfl⟩

lemma exists_elementOperand {elements : List Expr} (hmem : x ∈ IR.namesAll elements) :
    ∃ kept o, (kept, o) ∈ elements.map (true, ·) ∧ x ∈ o.names ∧ sizeOf o < sizeOf elements := by
  obtain ⟨element, helement, hmem⟩ := IR.mem_namesAll.1 hmem
  have hsize := sizeOf_lt_of_mem helement
  exact ⟨true, element, mem_map_of_mem helement, hmem, hsize⟩

lemma exists_formatOperand {parts : List Expr} (hmem : x ∈ IR.namesAll parts) :
    ∃ kept o, (kept, o) ∈ parts.map formatOperand ∧ x ∈ o.names ∧ sizeOf o < sizeOf parts := by
  obtain ⟨part, hpart, hmem⟩ := IR.mem_namesAll.1 hmem
  have hsize := sizeOf_lt_of_mem hpart
  refine ⟨(formatOperand part).1, (formatOperand part).2, mem_map_of_mem hpart, ?_⟩
  unfold formatOperand
  split
  · exact ⟨hmem, hsize⟩
  · rename_i value _ _
    simp only [Expr.formatted.sizeOf_spec] at hsize
    refine ⟨hmem, ?_⟩
    show sizeOf value < sizeOf parts
    omega
  · exact ⟨hmem, hsize⟩

lemma exists_searchOperand {op : BinOp} {left right : Expr}
    (hfound : (e.found (comparedSearch op (searched left) (expr right))).isSome = true)
    (hmem : x ∈ left.names) :
    ∃ kept o, (kept, o) ∈ searchOperands left ∧ x ∈ o.names ∧ sizeOf o < sizeOf left := by
  cases left with
  | method obj method args kwargs line =>
    obtain ⟨kept, o, ho, hmem, hsize⟩ := exists_callOperand (.withReceiver 1) hmem
    simp only [Expr.method.sizeOf_spec]
    exact ⟨kept, o, ho, hmem, by omega⟩
  | _ => cases hfound

lemma exists_subscriptOperand {obj index : Expr} {line : IR.Line}
    (hmem : x ∈ (Expr.subscript obj index line).names) :
    ∃ kept o, (kept, o) ∈ operands e (.subscript obj index line) ∧ x ∈ o.names ∧
      sizeOf o < sizeOf (Expr.subscript obj index line) := by
  rw [Expr.names, mem_append] at hmem
  simp only [Expr.subscript.sizeOf_spec]
  by_cases hslice : ∃ lower upper step line, index = .slice lower upper step line
  · obtain ⟨lower, upper, step, _, rfl⟩ := hslice
    rw [operands]
    simp only [Expr.names, mem_append] at hmem
    simp only [Expr.slice.sizeOf_spec]
    rcases hmem with hmem | (hmem | hmem) | hmem
    · exact ⟨true, obj, by simp, hmem, by omega⟩
    · exact ⟨true, lower, by simp, hmem, by omega⟩
    · exact ⟨true, upper, by simp, hmem, by omega⟩
    · exact ⟨false, step, by simp, hmem, by omega⟩
  · rw [operands]
    · rcases hmem with hmem | hmem
      · exact ⟨true, obj, by simp, hmem, by omega⟩
      · exact ⟨(tupleField? index).isNone, index, by simp, hmem, by omega⟩
    · intro lower upper step line hindex
      exact hslice ⟨lower, upper, step, line, hindex⟩

lemma exists_operand {ex : Expr} (hmem : x ∈ ex.names) : (∃ line, ex = .name x line) ∨
      ∃ kept o, (kept, o) ∈ operands e ex ∧ x ∈ o.names ∧ sizeOf o < sizeOf ex := by
  cases ex with
  | absent | literal | other => cases hmem
  | name n line =>
    obtain rfl : x = n := by simpa [Expr.names] using hmem
    exact .inl ⟨line, rfl⟩
  | binary op left right line =>
    rw [Expr.names, mem_append] at hmem
    simp only [operands, Expr.binary.sizeOf_spec]
    right
    split
    · rename_i hfound
      rcases hmem with hmem | hmem
      · obtain ⟨kept, o, ho, hmem, hsize⟩ := exists_searchOperand hfound hmem
        exact ⟨kept, o, mem_cons_of_mem _ ho, hmem, by omega⟩
      · exact ⟨false, right, mem_cons_self, hmem, by omega⟩
    · rcases hmem with hmem | hmem
      · exact ⟨true, left, by simp, hmem, by omega⟩
      · exact ⟨true, right, by simp, hmem, by omega⟩
  | call | method =>
    obtain ⟨kept, o, ho, hmem, hsize⟩ := exists_callOperand _ hmem
    exact .inr ⟨kept, o, ho, hmem, by simp; omega⟩
  | subscript obj index line =>
    exact .inr (exists_subscriptOperand hmem)
  | list elements line | set elements line | tuple elements line =>
    obtain ⟨kept, o, ho, hmem, hsize⟩ := exists_elementOperand hmem
    exact .inr ⟨kept, o, ho, hmem, by simp; omega⟩
  | dict entries line =>
    obtain ⟨⟨key, value⟩, hentry, hmem⟩ := IR.mem_namesEntries.1 hmem
    have hsize := sizeOf_lt_of_mem hentry
    simp only [Prod.mk.sizeOf_spec] at hsize
    simp only [operands, Expr.dict.sizeOf_spec, mem_flatMap]
    right
    rcases hmem with hmem | hmem
    · exact ⟨true, key, ⟨(key, value), hentry, by simp⟩, hmem, by omega⟩
    · exact ⟨true, value, ⟨(key, value), hentry, by simp⟩, hmem, by omega⟩
  | ifExp first second third line | slice first second third line =>
    rw [Expr.names, mem_append, mem_append] at hmem
    simp only [operands, Expr.ifExp.sizeOf_spec, Expr.slice.sizeOf_spec]
    right
    rcases hmem with (hmem | hmem) | hmem
    · exact ⟨_, first, .head _, hmem, by omega⟩
    · exact ⟨_, second, .tail _ (.head _), hmem, by omega⟩
    · exact ⟨_, third, .tail _ (.tail _ (.head _)), hmem, by omega⟩
  | listComp element target source conditions line =>
    rw [Expr.names, mem_append, mem_append] at hmem
    simp only [operands, Expr.listComp.sizeOf_spec]
    right
    rcases hmem with (hmem | hmem) | hmem
    · exact ⟨true, source, by simp, hmem, by omega⟩
    · exact ⟨true, element, by simp, hmem, by omega⟩
    · obtain ⟨kept, o, ho, hmem, hsize⟩ := exists_elementOperand hmem
      exact ⟨kept, o, by simp [ho], hmem, by omega⟩
  | fstring parts line =>
    obtain ⟨kept, o, ho, hmem, hsize⟩ := exists_formatOperand hmem
    exact .inr ⟨kept, o, ho, hmem, by simp; omega⟩
  | unary op operand line =>
    exact .inr ⟨true, operand, mem_cons_self, hmem, by simp; omega⟩
  | attr obj member line =>
    exact .inr ⟨_, obj, mem_cons_self, hmem, by simp; omega⟩
  | formatted value spec line =>
    exact .inr ⟨false, value, mem_cons_self, hmem, by simp; omega⟩
  | await value line =>
    exact .inr ⟨true, value, mem_cons_self, hmem, by simp; omega⟩

/-- A name in a part of an expression is a part itself, or it is in an operand that is left out. -/
lemma Part.name_or_lost {root part : Expr} (hpart : Part e root part) (hmem : x ∈ part.names) :
    (∃ line, Part e root (.name x line)) ∨
      ∃ part lost, Part e root part ∧ (false, lost) ∈ operands e part ∧ x ∈ lost.names := by
  rcases exists_operand (e := e) hmem with ⟨line, rfl⟩ | ⟨kept, o, ho, hmem, hsize⟩
  · exact .inl ⟨line, hpart⟩
  cases kept with
  | false => exact .inr ⟨part, o, hpart, ho, hmem⟩
  | true => exact Part.name_or_lost (hpart.operand ho) hmem
termination_by sizeOf part

end Lost

/-- A variable that is a part of an expression stands in the written text, and any other occurrence
of it is inside of an operand that is left out. -/
theorem name_written {e : Emitter} {x text : String} {ex : Expr} (hx : IsVariable x)
    (hown : e.ctx.nativeImports.get? x = none) (h : (e.run (expr ex)).1 = .ok text) :
    ((∃ line, Part e ex (.name x line)) → x ∈ Text.names text) ∧
      (x ∈ ex.names → (∃ line, Part e ex (.name x line)) ∨
        ∃ part lost, Part e ex part ∧ (false, lost) ∈ operands e part ∧ x ∈ lost.names) := by
  refine ⟨fun ⟨line, hpart⟩ => ?_, fun hmem => Part.root.name_or_lost hmem⟩
  have hshows : ShowsIn e x ex := hpart.showsIn hx (showsIn_name hown line)
  exact (hshows text ⟨e, .refl e, h⟩).mem_names hx

/-- The call `total(items[low:], scale * len(items))`. -/
def totalCall : Expr :=
  .call (.name "total" none)
    [.subscript (.name "items" none) (.slice (.name "low" none) .absent .absent none) none,
      .binary .mul (.name "scale" none) (.call (.name "len" none) [.name "items" none] [] none) none]
    [] none

theorem name_written_totalCall :
    IsVariable "low" ∧ "low" ∈ totalCall.names ∧
      (({} : Emitter).run (expr totalCall)).1 =
        .ok "total(items[low as usize..].to_string(), scale * items.len() as i64)" ∧
      "low" ∈ Text.names "total(items[low as usize..].to_string(), scale * items.len() as i64)" := by
  have hx : IsVariable "low" := ⟨by decide, by decide⟩
  have hrun : (({} : Emitter).run (expr totalCall)).1 =
      .ok "total(items[low as usize..].to_string(), scale * items.len() as i64)" := by
    decide
  have hpart : Part {} totalCall (.name "low" none) := by
    refine .operand (.operand .root (mem_cons_of_mem _ mem_cons_self)) ?_
    exact mem_cons_of_mem _ mem_cons_self
  exact ⟨hx, by decide, hrun, (name_written hx rfl hrun).1 ⟨none, hpart⟩⟩

def printCallOfTwo : Expr :=
  .call (.name "print" none) [.name "a" none, .name "b" none] [] none

theorem name_lost_printCallOfTwo :
    IsVariable "b" ∧ "b" ∈ printCallOfTwo.names ∧ ({} : Emitter).ctx.nativeImports.get? "b" = none ∧
      (({} : Emitter).run (expr printCallOfTwo)).1 = .ok "println!(\"\x7b\x7d\", a)" ∧
      "b" ∉ Text.names "println!(\"\x7b\x7d\", a)" :=
  ⟨⟨by decide, by decide⟩, by decide, rfl, by decide, by decide⟩

end Emit

end Oxidize
