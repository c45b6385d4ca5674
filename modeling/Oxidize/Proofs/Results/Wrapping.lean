import Oxidize.Proofs.Emission.Views
import Oxidize.Proofs.Grouping.Spelled
import Oxidize.Proofs.Reading.Variables
import Oxidize.Transpile

/-!
# Options and results in statements

A returned value of a function with an optional result is wrapped unless it is written as nothing,
and a declared value of an optional type is wrapped unless it is written as nothing or is a call.
Neither rule asks whether the value is an option already (`option_kept_iff`).

The result of a fallible call is passed on unless one of two flags is set. They are meant for the
outermost expression of a statement but stay set while its operands are written. So a call inside of
a returned value, of a declared one without a type or of the call that a `try` begins with keeps its
result (`nested_call_passed_on_iff`).
-/

namespace Oxidize.Emit

open IR (Expr Ty Stmt)
open Emitter

variable {e e' : Emitter} {value : Expr} {codes : List Code} {w : Written}

/-! ## Places of expressions -/

inductive Place where
  | returned
  | declared (annot : Option Ty)
  /-- As the call that a `try` statement begins with. -/
  | attempted (target : Option String)
  | elsewhere

def Place.enter : Place → Emit Unit
  | .returned => change fun c => { c with inDirectReturn := true }
  | .declared annot => expectType annot
  | .attempted target => change fun c => { c with
      inResult := true, inDirectReturn := false, storesResult := true, targetType := target }
  | .elsewhere => return ()

def WritesAt {α : Type} (x : Emit α) (place : Place) (value : Expr) : Prop :=
  ∃ rest, x = place.enter >>= fun _ => written value >>= rest

/-- At the place the expression is written as `text`. -/
def WrittenAt (e : Emitter) (place : Place) (value : Expr) (text : String) : Prop :=
  ∃ point, e.run place.enter = (.ok (), point) ∧ (point.run (expr value)).1 = .ok text

lemma exists_of_written (h : e.run (written value) = (.ok w, e')) :
    (e.run (expr value)).1 = .ok w.text ∧ e.Kin e' := by
  unfold written at h
  rw [run_context_bind] at h
  obtain ⟨text, e₁, htext, h⟩ := of_run_bind h
  cases h
  have hkin := (expr_free value).kin_run e
  rw [htext] at hkin
  exact ⟨by rw [htext], hkin⟩

/-! ## Options -/

/-- What stands for an option: nothing stays as it is, and so does what is kept. -/
def optionText (keeps : Bool) (own : String) : String :=
  if own == "None" || keeps then own else s!"Some({own})"

variable {line : IR.Line} {own text : String}

lemma optionText_eq_self_iff {keeps : Bool} :
    optionText keeps own = own ↔ own = "None" ∨ keeps = true := by
  unfold optionText
  split
  · rename_i h
    exact iff_of_true rfl (by simpa using h)
  · rename_i h
    refine iff_of_false (fun heq => ?_) (by simpa using h)
    have hlength : ("Some(" ++ own ++ ")").length = own.length := congrArg String.length heq
    have hopening : "Some(".length = 5 := rfl
    rw [String.length_append, String.length_append] at hlength
    omega

lemma optionText_cases (keeps : Bool) (own : String) :
    optionText keeps own = own ∨ optionText keeps own = s!"Some({own})" :=
  ite_eq_or_eq ..

def leaving (c : Context) (text : String) : String :=
  if c.inLastStmt then text else s!"return {text};"

lemma exists_of_clonedField (h : e.run (clonedField value text) = (.ok own, e')) :
    (own = text ∨ own = text ++ ".clone()") ∧ e' = e := by
  unfold clonedField at h
  rw [run_context_bind] at h
  split at h <;> cases h
  · refine ⟨?_, rfl⟩
    split
    · exact .inr rfl
    · exact .inl rfl
  · exact ⟨.inl rfl, rfl⟩

lemma exists_of_ret (hvalue : value ≠ .absent)
    (h : e.run (stmtCode (.ret value line)) = (.ok codes, e')) :
    ∃ w own, WrittenAt e .returned value w.text ∧ (own = w.text ∨ own = w.text ++ ".clone()") ∧
      codes = [.leave [w] (leaving e.ctx (optionText (!e.ctx.inOption) own))] := by
  rw [stmtCode] at h
  obtain ⟨code, e₀, h, hcodes⟩ := of_run_bind h
  cases hcodes
  unfold ret at h
  split at h
  · exact absurd rfl hvalue
  rw [run_change_bind] at h
  obtain ⟨w, e₁, hw, h⟩ := of_run_bind h
  obtain ⟨htext, hkin⟩ := exists_of_written hw
  rw [run_change_bind] at h
  obtain ⟨own, e₂, hown, h⟩ := of_run_bind h
  obtain ⟨hclone, rfl⟩ := exists_of_clonedField hown
  have hoption : e₁.ctx.inOption = e.ctx.inOption := (congrArg Context.inOption hkin.frame :)
  have hlast : e₁.ctx.inLastStmt = e.ctx.inLastStmt := (congrArg Context.inLastStmt hkin.frame :)
  refine ⟨w, own, ⟨_, rfl, htext⟩, hclone, ?_⟩
  cases h
  simp only [leaving, optionText, hoption, hlast]
  cases e.ctx.inOption <;> cases hnone : own == "None" <;> simp [bne, hnone]

lemma typedParts_snd (type : RustType) (value : Expr) (code : String) :
    (typedParts type value code).2 = optionText (type.name != "Option" || value.isCall) code := by
  unfold typedParts optionText
  cases hnone : code == "None" <;> cases hoption : type.name == "Option" <;>
    cases value.isCall <;> simp [bne, hoption]

lemma exists_of_declare {target : String} {annot : Ty} {mutable : Bool} (hvalue : value ≠ .absent)
    (hfresh : e.ctx.hoisted.contains target = false)
    (h : e.run (stmtCode (.assign target value (some annot) true mutable line)) = (.ok codes, e')) :
    ∃ (type : RustType) (w : Written) (isMut : Bool) (binding shown text : String),
      e.given (resolve annot) = some type ∧ WrittenAt e (.declared (some annot)) value w.text ∧
      codes = [.declare .declaration (some target) isMut binding (some shown)
        (some { w with text })] ∧
      text = optionText (type.name != "Option" || value.isCall) w.text := by
  rw [stmtCode] at h
  obtain ⟨code, e₀, h, hcodes⟩ := of_run_bind h
  cases hcodes
  unfold assign at h
  obtain ⟨_, e₁, hlearn, h⟩ := of_run_bind h
  obtain rfl : e = e₁ := (congrArg Prod.snd hlearn :)
  rw [if_pos rfl, run_context_bind, hfresh, if_neg Bool.false_ne_true] at h
  split at h
  · exact absurd rfl hvalue
  unfold declare at h
  rw [run_context_bind] at h
  obtain ⟨w, e₂, hw, h⟩ := of_run_bind h
  unfold declaredValue at hw
  obtain ⟨_, point, hpoint, hw⟩ := of_run_bind hw
  obtain ⟨w', e₃, hwritten, hw⟩ := of_run_bind hw
  cases hw
  obtain ⟨htext, hkin⟩ := exists_of_written hwritten
  rw [run_context_bind] at h
  dsimp only at h
  obtain ⟨⟨shown, text⟩, e₄, htyped, h⟩ := of_run_bind h
  cases h
  unfold typedDeclaration at htyped
  obtain ⟨type, e₅, htype, htyped⟩ := of_run_bind htyped
  obtain ⟨_, e₆, hlearn, htyped⟩ := of_run_bind htyped
  obtain ⟨_, e₇, hnote, htyped⟩ := of_run_bind htyped
  have hparts := congrArg Prod.snd (Except.ok.inj (congrArg Prod.fst htyped))
  refine ⟨type, w, _, _, shown, text, ?_, ⟨point, hpoint, htext⟩, rfl,
    hparts.symm.trans (typedParts_snd ..)⟩
  obtain ⟨expected, e₈, hexpected, hpoint⟩ := of_run_bind hpoint
  cases hexpected
  cases hpoint
  cases htype
  -- The type is resolved after the value is written, which keeps all that the resolver asks.
  have hconsults := Resolver.resolve_consults (T := .free) annot
  have hsame := (hconsults.run_same e.resolver.within_free).trans hkin.resolver
  exact congrArg some (hconsults.run_congr hsame).symm

/-- An option is wrapped again: what is returned stays as it is only if it is nothing, and what is
declared only if it is nothing or a call. -/
theorem option_kept_iff {line : IR.Line} (hvalue : value ≠ .absent) :
    (e.ctx.inOption = true → e.run (stmtCode (.ret value line)) = (.ok codes, e') →
      ∃ (w : Written) (own shown : String), WrittenAt e .returned value w.text ∧
        (own = w.text ∨ own = w.text ++ ".clone()") ∧ codes = [.leave [w] (leaving e.ctx shown)] ∧
        (shown = own ∨ shown = s!"Some({own})") ∧ (shown = own ↔ own = "None")) ∧
    ∀ target annot mutable type, e.ctx.hoisted.contains target = false →
      e.given (resolve annot) = some type → type.name = "Option" →
      e.run (stmtCode (.assign target value (some annot) true mutable line)) = (.ok codes, e') →
      ∃ (w : Written) (isMut : Bool) (binding shown text : String),
        WrittenAt e (.declared (some annot)) value w.text ∧
        codes = [.declare .declaration (some target) isMut binding (some shown)
          (some { w with text })] ∧
        (text = w.text ∨ text = s!"Some({w.text})") ∧
        (text = w.text ↔ w.text = "None" ∨ value.isCall = true) := by
  refine ⟨fun hoption h => ?_, fun target annot mutable type hfresh htype hoption h => ?_⟩
  · obtain ⟨w, own, hw, hown, rfl⟩ := exists_of_ret hvalue h
    refine ⟨w, own, _, hw, hown, rfl, optionText_cases .., optionText_eq_self_iff.trans ?_⟩
    simp [hoption]
  · obtain ⟨type', w, isMut, binding, shown, text, htype', hw, rfl, rfl⟩ :=
      exists_of_declare hvalue hfresh h
    obtain rfl := Option.some.inj (htype.symm.trans htype')
    refine ⟨w, isMut, binding, shown, _, hw, rfl, optionText_cases .., optionText_eq_self_iff.trans ?_⟩
    simp [hoption]

/-- The function `def pick(x: Optional[int]) -> Optional[int]: return x`. -/
def pickFunction : IR.Function where
  name := "pick"
  params := [{ name := "x", type := .generic "Optional" [.prim .int] }]
  result := some (.generic "Optional" [.prim .int])
  body := [.ret (.name "x" none) none]

theorem option_kept_nothing :
    (Expr.literal .none none ≠ .absent) ∧ ∃ (codes : List Code) (e' : Emitter),
      Emitter.run { ctx := { inOption := true } } (stmtCode (.ret (.literal .none none) none)) =
          (.ok codes, e') ∧
        ∃ (w : Written) (own shown : String), codes = [.leave [w] (leaving {} shown)] ∧
          (shown = own ↔ own = "None") := by
  refine ⟨nofun, _, _, rfl, ?_⟩
  obtain ⟨w, own, shown, -, -, hcodes, -, hkept⟩ :=
    (@option_kept_iff { ctx := { inOption := true } } _ (.literal .none none) _ none nofun).1 rfl rfl
  exact ⟨w, own, shown, hcodes, hkept⟩

theorem option_wrapped_again :
    (Emitter.run {} (function pickFunction)).1 =
      .ok "pub fn pick(x: Option<i64>) -> Option<i64> \x7b\n    Some(x)\n\x7d" := by
  decide +kernel

/-! ## Results -/

def calledWords : List String :=
  ["Path", "Some", "Ok", "Err", "range", "len", "print", "str", "int", "float", "set", "dict", "list",
   "open"]

/-- A function of the program that no rule takes for something else. -/
structure OwnFunction (c : Context) (f : String) : Prop extends IsVariable f, IsOwn c f where
  word : f ∉ calledWords

lemma builtinCall_eq_none {f : String} (h : f ∉ calledWords) (args : List Expr)
    (texts : List String) : builtinCall f args texts = pure none := by
  unfold builtinCall
  split <;> first | rfl | exact absurd (by decide) h

/-- A call of a function of the program is written as it is, and its result is passed on where no
flag is set. -/
lemma yields_call {f : String} {args : List Expr} {kwargs : Table Expr}
    {line' : IR.Line} (hf : OwnFunction e.ctx f)
    (h : Yields e (expr (.call (.name f line) args kwargs line')) text) :
    ∃ texts, text = s!"{f}({Text.commas texts})" ++
      if e.ctx.inResult && e.ctx.resultFunctions.contains f && !e.ctx.storesResult &&
        !e.ctx.inDirectReturn then "?" else "" := by
  rw [expr] at h
  obtain ⟨texts, -, h⟩ := h.bind (exprs_free args)
  refine ⟨texts, ?_⟩
  -- Each rule is tried in its order, and none applies before the last one.
  unfold call at h
  obtain ⟨mapped, hmapped, h⟩ := h.bind (mappedFunction_plain _ texts (namedExprs_free kwargs))
  obtain rfl : mapped = none := by
    unfold mappedFunction importedCall at hmapped
    obtain ⟨native, hnative, hmapped⟩ := hmapped.bind (nativeCall_plain f none texts)
    unfold nativeCall at hnative
    obtain ⟨m, hm, hnative⟩ := hnative.bind (nativeMapping?_plain f none)
    obtain rfl := eq_none_of_nativeMapping? hf.notNative hm
    obtain rfl := hnative.eq_of_pure
    have hmapped := hmapped.context fun _ => rfl
    simp only [hf.notImported] at hmapped
    exact hmapped.eq_of_pure
  obtain ⟨func, hfunc, h⟩ := h.bind (expr_free _)
  obtain rfl : f = func := by
    rw [expr] at hfunc
    unfold nameValue at hfunc
    have hfunc := hfunc.context fun _ => rfl
    simp only [hf.notNarrowed, Bool.false_eq_true, if_false] at hfunc
    obtain ⟨m, hm, hfunc⟩ := hfunc.bind (nativeMapping?_plain f none)
    obtain rfl := eq_none_of_nativeMapping? hf.notNative hm
    exact hfunc.eq_of_pure.symm
  unfold writtenCall at h
  obtain ⟨path, hpath, h⟩ := h.bind (pathCall_plain f texts)
  obtain rfl : path = none := by
    have hne : (f == "Path") = false := beq_false_of_ne fun heq => hf.word (heq ▸ List.mem_cons_self)
    unfold pathCall at hpath
    simp only [hne, Bool.false_eq_true, if_false] at hpath
    exact hpath.eq_of_pure
  obtain ⟨built, hbuilt, h⟩ := h.bind (importedConstructor_plain (.name f line) texts)
  obtain rfl : built = none := by
    unfold importedConstructor at hbuilt
    have hbuilt := hbuilt.context fun _ => rfl
    simp only [hf.notImported] at hbuilt
    exact hbuilt.eq_of_pure
  have h := h.context fun _ => rfl
  simp only [hf.notClass, Bool.false_eq_true, if_false, builtinCall_eq_none hf.word] at h
  obtain ⟨none', hnone, h⟩ := h.bind (.done : Mild .free (pure none))
  obtain rfl := hnone.eq_of_pure
  obtain ⟨passes, hpasses, h⟩ := h.bind (passesOn_plain f)
  unfold passesOn at hpasses
  have hpasses := hpasses.context fun _ => rfl
  rw [h.eq_of_pure, hpasses.eq_of_pure]
  split
  · rfl
  · rw [String.append_empty]

def Place.passes : Place → Bool
  | .returned => false
  | .declared annot => annot.any (!·.isResult)
  | .attempted _ => false
  | .elsewhere => true

lemma awaited_question (code : String) : awaited (code ++ "?") = code ++ ".await?" := by
  have hunwrap : Text.dropSuffix? (code ++ "?") ".unwrap()" = none := by
    cases hdrop : Text.dropSuffix? (code ++ "?") ".unwrap()" with
    | none => rfl
    | some rest =>
      have hlast := congrArg (·.toList.getLast?) (Text.dropSuffix?_eq_some hdrop)
      simp at hlast
  unfold awaited
  rw [hunwrap, dropSuffix?_append]
  rfl

lemma exists_of_enter {place : Place} {point : Emitter} (hidle : View.Idle e.ctx)
    (hresult : e.ctx.inResult = true) (h : e.run place.enter = (.ok (), point)) :
    ∃ targetType storesResult inDirectReturn,
      point.ctx = { e.ctx with inResult := true, targetType, storesResult, inDirectReturn } ∧
        (!storesResult && !inDirectReturn) = place.passes := by
  rw [← hresult]
  match place with
  | .returned =>
    cases h
    exact ⟨_, _, _, rfl, Bool.and_false _⟩
  | .declared none =>
    cases h
    exact ⟨_, _, _, rfl, rfl⟩
  | .declared (some t) =>
    obtain ⟨type, e₁, htype, h⟩ := of_run_bind h
    cases htype
    cases h
    refine ⟨_, _, _, rfl, ?_⟩
    rw [hidle.inDirectReturn]
    exact Bool.and_true _
  | .attempted target =>
    cases h
    rw [hresult]
    exact ⟨_, _, _, rfl, rfl⟩
  | .elsewhere =>
    cases h
    refine ⟨_, _, _, rfl, ?_⟩
    rw [hidle.storesResult, hidle.inDirectReturn]
    rfl

/-- In a fallible function the result of a fallible call inside of an expression is passed on
exactly if the expression is neither returned nor attempted, nor declared without a type or as a
result. -/
theorem nested_call_passed_on_iff {place : Place} {point : Emitter} {f : String} {root : Expr}
    {args : List Expr} {kwargs : List (String × Expr)} {line line' : IR.Line}
    (hidle : View.Idle e.ctx) (hresult : e.ctx.inResult = true)
    (hfallible : e.ctx.resultFunctions.contains f = true) (hf : OwnFunction e.ctx f)
    (hpoint : e.run place.enter = (.ok (), point))
    (hpart : Part point root (.call (.name f line) args kwargs line')) :
    (∀ value, value ≠ .absent → WritesAt (ret value) .returned value) ∧
    (∀ value annot, WritesAt (declaredValue value annot) (.declared annot) value) ∧
    (∀ value target, ∃ rest, unhandled value target = context >>= rest ∧
      ∀ before, WritesAt (rest before) (.attempted target) value) ∧
    (∀ value line, WritesAt (stmtCode (.expr value line)) .elsewhere value) ∧
    (∀ text, Yields point (expr root) text → f ∈ Text.names text) ∧
    ∀ text, Yields point (expr (.call (.name f line) args kwargs line')) text →
      ∃ texts, text = s!"{f}({Text.commas texts})" ++ (if place.passes then "?" else "") ∧
        ((∃ inner, text = inner ++ "?" ∧ awaited text = inner ++ ".await?") ↔
          place.passes = true) := by
  refine ⟨fun value hvalue => ?_, fun _ _ => ⟨_, rfl⟩, fun _ _ => ⟨_, rfl, fun _ => ⟨_, rfl⟩⟩,
    fun _ _ => ⟨_, by rw [stmtCode]; rfl⟩, fun text htext => ?_, fun text htext => ?_⟩
  · unfold ret
    split
    · exact absurd rfl hvalue
    · exact ⟨_, rfl⟩
  all_goals
    obtain ⟨targetType, storesResult, inDirectReturn, hctx, hpasses⟩ :=
      exists_of_enter hidle hresult hpoint
    have hown : OwnFunction point.ctx f := by
      rw [hctx]
      exact ⟨hf.toIsVariable, ⟨hf.notNarrowed, hf.notNative, hf.notImported, hf.notClass⟩, hf.word⟩
  · refine (hpart.showsIn hf.toIsVariable (fun code hcode => ?_) text htext).mem_names hf.toIsVariable
    obtain ⟨texts, rfl⟩ := yields_call hown hcode
    exact (((((Stands.self f).seal "(" rfl).more _).more _).more _).stands
  · obtain ⟨texts, rfl⟩ := yields_call hown htext
    rw [hctx]
    simp only [hfallible, Bool.true_and, hpasses]
    refine ⟨texts, rfl, ?_⟩
    cases place.passes with
    | true => exact iff_of_true ⟨_, rfl, awaited_question _⟩ rfl
    | false =>
      refine iff_of_false ?_ Bool.false_ne_true
      rintro ⟨inner, heq, -⟩
      have hlast := congrArg (·.toList.getLast?) heq
      simp only [toString, String.toList_append] at hlast
      simp [-List.append_assoc] at hlast

def readFunction : IR.Function where
  name := "read"
  result := some (.generic "Result" [.prim .int, .prim .str])
  body := [.ret (.call (.name "Ok" none) [.literal (.int 1) none] [] none) none]

/-- A fallible function that returns `Ok(read())`. -/
def loadFunction : IR.Function where
  name := "load"
  result := some (.generic "Result" [.prim .int, .prim .str])
  body := [.ret (.call (.name "Ok" none) [.call (.name "read" none) [] [] none] [] none) none]

theorem nested_call_passed_on_elsewhere :
    ∃ e : Emitter, View.Idle e.ctx ∧ e.ctx.inResult = true ∧
      e.ctx.resultFunctions.contains "read" = true ∧ OwnFunction e.ctx "read" ∧
      Part e (.list [.call (.name "read" none) [] [] none] none) (.call (.name "read" none) [] [] none) ∧
      ∃ inner, "read()?" = inner ++ "?" ∧ awaited "read()?" = inner ++ ".await?" := by
  let e : Emitter := { ctx := { inResult := true, resultFunctions := ["read"] } }
  have hidle : View.Idle e.ctx := ⟨rfl, rfl, rfl⟩
  have hown : OwnFunction e.ctx "read" :=
    ⟨⟨by decide, by decide⟩, ⟨rfl, rfl, rfl, rfl⟩, by decide⟩
  have hpart : Part e (.list [.call (.name "read" none) [] [] none] none) _ :=
    .operand .root List.mem_cons_self
  have hpoint : e.run Place.elsewhere.enter = (.ok (), e) := rfl
  obtain ⟨-, -, -, -, -, hcall⟩ := nested_call_passed_on_iff hidle rfl rfl hown hpoint hpart
  obtain ⟨texts, -, hpassed⟩ := hcall "read()?" ⟨e, .refl e, rfl⟩
  exact ⟨e, hidle, rfl, rfl, hown, hpart, hpassed.2 rfl⟩

theorem nested_call_kept_loadFunction :
    (transpile {} { name := "loading", functions := [readFunction, loadFunction] }).1.toOption =
      some ("pub fn read() -> Result<i64, String> \x7b\n    Ok(1)\n\x7d\n\n" ++
        "pub fn load() -> Result<i64, String> \x7b\n    Ok(read())\n\x7d\n") := by
  decide +kernel

end Oxidize.Emit
