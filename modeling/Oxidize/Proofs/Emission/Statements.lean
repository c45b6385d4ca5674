import Oxidize.Proofs.Emission.Expressions
import Oxidize.Proofs.Emission.Views

/-!
# Writing a statement

Writing a statement learns about variables, but it keeps the terms. It never lacks an argument if
its calls have theirs, and a `try` statement that has no counterpart is reported. Each lemma follows
the action it is about.
-/

namespace Oxidize

open Framed

/-! ## What is learned -/

variable (facts : Facts) (target : String) (annot : Option Ty)

namespace Facts

/-- What is known after types were noted and variables were hoisted or narrowed. -/
structure Grows (facts known : Facts) : Prop where
  rest : { known with typeEnv := [], narrowed := [], hoisted := [], nativeTypes := [] } =
    { facts with typeEnv := [], narrowed := [], hoisted := [], nativeTypes := [] }
  hoisted : facts.hoisted ⊆ known.hoisted
  nativeTypes : facts.nativeTypes ⊆ known.nativeTypes

lemma Grows.of_eq {facts known : Facts} (h : { known with typeEnv := [], narrowed := [] } =
      { facts with typeEnv := [], narrowed := [] }) : facts.Grows known := by
  have hhoisted := congrArg Facts.hoisted h
  have htypes := congrArg Facts.nativeTypes h
  refine ⟨congrArg (fun k : Facts => { k with hoisted := [], nativeTypes := [] }) h, ?_, ?_⟩
  · rw [show known.hoisted = facts.hoisted from hhoisted]
    exact List.Subset.refl _
  · rw [show known.nativeTypes = facts.nativeTypes from htypes]
    exact List.Subset.refl _

lemma noteType_grows (annot : IR.Ty) : facts.Grows (facts.noteType target annot) := by
  unfold noteType
  split <;> exact .of_eq rfl

lemma noteNativeType_grows (value : IR.Expr) : facts.Grows (facts.noteNativeType target value) := by
  unfold noteNativeType
  split
  · split
    · exact .of_eq rfl
    split
    · exact ⟨rfl, List.Subset.refl _, fun _ h => NameSet.mem_add.2 (.inr h)⟩
    · exact .of_eq rfl
  · exact .of_eq rfl

lemma noteValue_grows (value : IR.Expr)
    (annot : Option IR.Ty) : facts.Grows (facts.noteValue target value annot) := by
  unfold noteValue
  split
  · exact noteNativeType_grows facts target value
  · exact .of_eq rfl

lemma guard_grows (vars : List String) :
    facts.Grows { facts with narrowed := facts.narrowed.addAll vars } :=
  .of_eq rfl

lemma hoist_grows : facts.Grows { facts with hoisted := facts.hoisted.add target } :=
  ⟨rfl, fun _ h => NameSet.mem_add.2 (.inr h), List.Subset.refl _⟩

end Facts

namespace Emit

open IR (Expr Stmt Ty)
open Emitter

variable {C : Manner} {T : Terms}

def TellsErrors (T : Terms) : Prop :=
  ∀ error : EmitError, error.diagnostic?.isSome = true → T.errors error

/-! ## Assignments -/

lemma written_plain {e : Expr} (h : T.Supplies e.isSupplied) : Mild T (written e) := by
  unfold written
  refine .read rfl fun c _ => ?_
  exact (expr_plain e h).map

lemma expectType_plain : Plain .shy T Any (expectType annot) := by
  unfold expectType
  split
  · refine (resolve_plain _).bind fun type _ => ?_
    exact .change {}
  · exact .change {}

variable {value : Expr}

lemma declaredValue_plain (h : T.Supplies value.isSupplied) (annot : Option Ty) :
    Plain .shy T Any (declaredValue value annot) := by
  unfold declaredValue
  refine (expectType_plain annot).bind fun _ _ => ?_
  refine (written_plain h).shy.bind fun code _ => ?_
  exact .changing {} .done

lemma noteOption_plain (isOption : Bool) : Plain .shy T Any (noteOption target isOption) := by
  unfold noteOption
  split
  · exact .change {}
  · exact .done

lemma learn_framed {f : Facts → Facts} (hf : ∀ facts : Facts, facts.Grows (f facts)) :
    Framed T .statement (learn f) where
  built := .change fun _ h => h
  keeps e u e' _ _ h := by
    cases h
    have hgrows := hf e.ctx.toFacts
    have hpart := congrArg
      (fun facts : Facts => View.statement.part { e.ctx with toFacts := facts }) hgrows.rest
    exact ⟨.refl _, hpart, List.Subset.refl _, hgrows.hoisted, hgrows.nativeTypes⟩

lemma declareLater_framed (annot : Ty) (mutable : Bool) :
    Framed T .statement (declareLater target annot mutable) := by
  unfold declareLater
  refine .read fun c _ => ?_
  refine .step (resolve_plain annot) fun type => ?_
  refine (learn_framed fun facts => facts.noteType_grows target annot).bind fun _ => ?_
  exact .read fun c _ => .pure _

lemma declaredValue_leaves (value : Expr) (annot : Option Ty) :
    Leaves .statement (declaredValue value annot) := by
  intro e w e' he h
  -- the two fields that are set for the value are hidden until they are reset
  let hide (c : Context) : Context := { c with targetType := none, storesResult := false }
  have hkept : e.Keeps (.without hide) e' := by
    refine Leaves.bind (v := .without hide) ?_ (fun _ => ?_) trivial h
    · unfold expectType
      split
      · refine (still (resolve_plain _)).leaves.bind fun type => ?_
        exact .change fun _ => rfl
      · exact .change fun _ => rfl
    refine (light (fun _ _ hframe => ?_) (written_plain .free)).leaves.bind fun w => ?_
    · exact (congrArg (View.without hide).part hframe :)
    refine Leaves.bind ?_ fun _ => .pure w
    exact .change fun _ => rfl
  refine hkept.of_without hide ?_ ?_
  · show { e.ctx with targetType := none, storesResult := false } = e.ctx
    rw [← he.targetType, ← he.storesResult]
  · obtain ⟨u, e₁, hexpect, h⟩ := of_run_bind h
    obtain ⟨w', e₂, hw, h⟩ := of_run_bind h
    cases h
    rfl

lemma noteOption_framed (isOption : Bool) : Framed T .statement (noteOption target isOption) :=
  .of_leaves (noteOption_plain target isOption).keeps (by
    unfold noteOption
    split
    · exact .change fun _ => rfl
    · exact .pure ())

lemma typedDeclaration_framed (value : Expr) (code : String) (annot : Ty) :
    Framed T .statement (typedDeclaration target value code annot) := by
  unfold typedDeclaration
  refine .step (resolve_plain annot) fun type => ?_
  refine (learn_framed fun facts => facts.noteType_grows target annot).bind fun _ => ?_
  exact (noteOption_framed _ _).map

lemma declare_framed (h : T.Supplies value.isSupplied) (annot : Option Ty)
    (mutable : Bool) : Framed T .statement (declare target value annot mutable) := by
  unfold declare
  refine .read fun c _ => ?_
  refine (of_leaves (declaredValue_plain h annot).keeps
    (declaredValue_leaves value annot)).bind fun w => ?_
  refine .read fun c _ => ?_
  split
  · exact (typedDeclaration_framed _ _ _ _).map
  · exact .pure _

lemma assign_framed (h : T.Supplies value.isSupplied) (annot : Option Ty)
    (declares mutable : Bool) :
    Framed T .statement (assign target value annot declares mutable) := by
  unfold assign
  refine (learn_framed fun facts => facts.noteValue_grows target value annot).bind fun _ => ?_
  split
  · refine .read fun c _ => ?_
    split
    · exact (Framed.written (written_plain h)).map
    split
    · exact declareLater_framed _ _ _
    · exact declare_framed _ h _ _
  · refine (Framed.written (written_plain (h.imp fun hvalue => ?_))).map
    exact updateParts_isSupplied hvalue target

lemma unpackTypes_plain (targets : List String) (annots : List (Option Ty)) :
    Plain C T Any (unpackTypes targets annots) := by
  unfold unpackTypes
  refine Acts.listMapM ?_
  rintro ⟨target, i⟩ _
  dsimp only
  split
  · exact (resolve_plain _).map
  · exact .done

lemma tupleUnpack_plain (targets : List String) (h : T.Supplies value.isSupplied)
    (annots : List (Option Ty)) (mutables : List Bool) :
    Mild T (tupleUnpack targets value annots mutables) := by
  unfold tupleUnpack
  refine (written_plain h).bind fun w _ => ?_
  dsimp only
  split
  · exact (unpackTypes_plain _ _).map
  · exact .done

lemma attrAssign_plain {obj : Expr} (hobj : T.Supplies obj.isSupplied) (member : String)
    (h : T.Supplies value.isSupplied) : Mild T (attrAssign obj member value) := by
  unfold attrAssign
  refine (written_plain hobj).bind fun target _ => ?_
  split
  · rename_i hupdate
    refine (written_plain (h.imp fun hvalue => ?_)).map
    exact fieldUpdate?_isSupplied hvalue hupdate
  · exact (written_plain h).map

lemma subscriptAssign_plain {obj index : Expr} (hobj : T.Supplies obj.isSupplied)
    (hindex : T.Supplies index.isSupplied) (h : T.Supplies value.isSupplied) :
    Mild T (subscriptAssign obj index value) := by
  unfold subscriptAssign
  refine (written_plain hobj).bind fun target _ => ?_
  refine (written_plain hindex).bind fun key _ => ?_
  refine (written_plain h).bind fun w _ => ?_
  refine .read rfl fun c _ => ?_
  dsimp only
  split <;> exact .done

lemma filledList?_built (s : Stmt) {following : List Stmt}
    (h : T.Supplies (IR.blockSupplied following)) :
    Built (Keeps T) T Any (filledList? s following) := by
  unfold filledList?
  split
  · rename_i fill hfill
    refine (Acts.context rfl).bind fun c _ => ?_
    refine .changing (fun c hc => ?_) (.changing (fun _ h => h) ?_)
    · split <;> exact hc
    refine (assign_framed _ (h.imp fun hfollowing => ?_) _ _ _).built.bind fun code _ => ?_
    · rw [IR.Expr.isSupplied]
      unfold filling? at hfill
      split at hfill
      · dsimp only at hfill
        split at hfill <;> cases hfill
        exact allSupplied_pushedValues hfollowing
      · cases hfill
    exact .changing (fun _ h => h) .done
  · exact .done

lemma filledList?_leaves (s : Stmt) (following : List Stmt) :
    Leaves .statement (filledList? s following) := by
  unfold filledList?
  split
  · intro e filled e' he h
    rw [run_context_bind] at h
    obtain ⟨u, e₂, hmut, h⟩ := of_run_bind h
    obtain ⟨u, e₃, hlearn, h⟩ := of_run_bind h
    obtain ⟨code, e₄, hassign, h⟩ := of_run_bind h
    cases h
    let hide (c : Context) : Context := { c with readVars := e.ctx.readVars }
    have hmarked : e.Keeps (.without hide) e₂ := by
      refine Leaves.change (v := .without hide) (fun c => ?_) trivial hmut
      split <;> rfl
    have hunread : e₂.Keeps (.without hide) e₃ := by
      cases hlearn
      refine ⟨.refl _, ?_, List.Subset.refl _, ?_, ?_⟩ <;>
      · dsimp only [fillingFacts]
        split <;> first | rfl | exact List.Subset.refl _
    have hstart := hmarked.trans hunread
    have hidle : View.Idle (hide e₃.ctx) :=
      View.statement.ready_of_part (c := hide e.ctx) hstart.part (he.of_eq rfl)
    have hcode := (assign_framed _ .free _ _ _).leaves (hidle.of_eq rfl) hassign
    have hpart := congrArg (fun c : Context => { c with readVars := e.ctx.readVars }) hcode.part
    have hend : e₃.Keeps (.without hide) e₄ := { hcode with part := hpart }
    have hkept := hstart.trans hend
    exact Emitter.Keeps.of_without hide { hkept with } rfl rfl
  · exact .pure none

/-! ## Parts of statements -/

section Brackets

variable {α : Type} {body : Emit α}

lemma indented_framed {v : View} (hv : v.Indents) (hbody : Framed T v body) :
    Framed T v (indented body) where
  built := .changing (fun _ h => h) (hbody.built.bind fun _ _ => .changing (fun _ h => h) .done)
  keeps e a e' hin he h := by
    unfold indented at h
    rw [run_change_bind] at h
    obtain ⟨a', e₂, hrun, h⟩ := of_run_bind h
    cases h
    have hin₁ : Emitter.Within T { e with ctx := { e.ctx with indent := e.ctx.indent + 1 } } :=
      ⟨hin.ctx, hin.resolver⟩
    have hkept := hbody.keeps hin₁ (hv.ready he) hrun
    exact { hkept with part := hv.part hkept.part }

lemma deeper_framed (hbody : Framed T .statement body) : Framed T .statement (indented body) :=
  indented_framed View.statement_indents hbody

lemma keepingTail_framed (hbody : Framed T .statement body) :
    Framed T .statement (keepingTail body) := by
  unfold keepingTail
  refine .read fun c _ => hbody.bind fun a => ?_
  exact bind (.change (fun _ h => h) fun _ => rfl) fun _ => .pure a

lemma foldl_discard_subset {vars : List String} {s t : NameSet} (h : s ⊆ t.addAll vars) :
    vars.foldl NameSet.discard s ⊆ t := by
  induction vars generalizing s with
  | nil => exact h
  | cons v vars ih =>
    rw [List.foldl_cons]
    refine ih fun x hx => ?_
    obtain ⟨hs, hne⟩ := NameSet.mem_discard.1 hx
    have hadded := NameSet.mem_addAll.1 (h hs)
    rw [List.mem_cons] at hadded
    rcases hadded with (hv | hvars) | ht
    · exact absurd hv hne
    · exact NameSet.mem_addAll.2 (.inl hvars)
    · exact NameSet.mem_addAll.2 (.inr ht)

lemma withUnwrapped_framed (vars : List String) (hbody : Framed T .statement body) :
    Framed T .statement (withUnwrapped vars body) where
  built := .changing (fun _ h => h) (hbody.built.bind fun _ _ => .changing (fun _ h => h) .done)
  keeps e a e' hin he h := by
    unfold withUnwrapped at h
    rw [run_change_bind] at h
    obtain ⟨a', e₂, hrun, h⟩ := of_run_bind h
    cases h
    have hin₁ : Emitter.Within T
        { e with ctx := { e.ctx with unwrapped := e.ctx.unwrapped.addAll vars } } :=
      ⟨hin.ctx, hin.resolver⟩
    have hkept := hbody.keeps hin₁ (he.of_eq rfl) hrun
    exact { hkept with unwrapped := foldl_discard_subset hkept.unwrapped }

end Brackets

lemma renderedType_plain : Plain C T Any (annot.mapM fun t => return (← resolve t).render) :=
  Acts.optionMapM fun t _ => (resolve_plain t).map

lemma hoist_framed (thenBody : List Stmt) (target : String) :
    Framed T .statement (hoist thenBody target) := by
  unfold hoist
  refine .step (renderedType_plain _) fun type => ?_
  exact (learn_framed fun facts => facts.hoist_grows target).map

lemma branchHead_plain {condition : Expr} (h : T.Supplies condition.isSupplied) :
    Mild T (branchHead condition) := by
  unfold branchHead
  split
  · exact (written_plain h).map
  · exact .done

lemma clonedField_plain (value : Expr) (code : String) :
    Plain C T Any (clonedField value code) := by
  unfold clonedField
  refine .read rfl fun c _ => ?_
  split <;> exact .done

lemma ret_plain (h : T.Supplies value.isSupplied) : Plain .shy T Any (ret value) := by
  unfold ret
  split
  · exact .done
  refine .changing {} ?_
  refine (written_plain h).shy.bind fun w _ => ?_
  refine .changing {} ?_
  refine (clonedField_plain value w.text).bind fun code _ => ?_
  exact .read rfl fun c _ => .done

lemma ret_leaves (value : Expr) : Leaves .statement (ret value) := by
  unfold ret
  split
  · exact .pure _
  intro e code e' he h
  let hide (c : Context) : Context := { c with inDirectReturn := false }
  rw [run_change_bind] at h
  obtain ⟨w, e₂, hw, h⟩ := of_run_bind h
  have hlight : Leaves (.without hide) (written value) :=
    (light (fun _ _ hframe => (congrArg (View.without hide).part hframe :))
      (written_plain .free)).leaves
  have hkept := hlight trivial hw
  rw [run_change_bind] at h
  have hend : e.Keeps .statement { e₂ with ctx := { e₂.ctx with inDirectReturn := false } } := by
    refine Emitter.Keeps.of_without hide { hkept with } ?_ rfl
    show { e.ctx with inDirectReturn := false } = e.ctx
    rw [← he.inDirectReturn]
  refine hend.trans (Leaves.bind (still (clonedField_plain value w.text)).leaves (fun text => ?_)
    (View.statement.ready_of_part hend.part he) h)
  exact Leaves.read fun c => .pure _

lemma raise_plain {error : Expr} (h : T.Supplies error.raised.isSupplied) :
    Mild T (raise error) := by
  unfold raise
  split
  · exact .done
  · exact (written_plain h).map
  · exact (written_plain h).map
  · rename_i hargs hnone
    refine (written_plain (h.imp fun herror => ?_)).map
    rwa [IR.Expr.raised] at herror
    · exact hargs
    · exact hnone

lemma unhandled_plain (h : T.Supplies value.isSupplied) (target : Option String) :
    Plain .shy T Any (unhandled value target) := by
  unfold unhandled
  refine .read rfl fun before _ => ?_
  refine .changing {} ?_
  refine (written_plain h).shy.bind fun w _ => ?_
  exact .changing {} .done

lemma unhandled_leaves (value : Expr) (target : Option String) :
    Leaves .statement (unhandled value target) := by
  intro e w e' he h
  unfold unhandled at h
  rw [run_context_bind] at h
  let hide (c : Context) : Context := { c with
    inResult := e.ctx.inResult, inDirectReturn := e.ctx.inDirectReturn
    storesResult := e.ctx.storesResult, targetType := e.ctx.targetType }
  rw [run_change_bind] at h
  obtain ⟨w', e₃, hw, h⟩ := of_run_bind h
  cases h
  have hlight : Leaves (.without hide) (written value) :=
    (light (fun _ _ hframe => (congrArg (View.without hide).part hframe :))
      (written_plain .free)).leaves
  have hkept := hlight trivial hw
  exact Emitter.Keeps.of_without hide { hkept with } rfl rfl

lemma unhandled_framed (h : T.Supplies value.isSupplied) (target : Option String) :
    Framed T .statement (unhandled value target) :=
  .of_leaves (unhandled_plain h target).keeps (unhandled_leaves value target)

lemma noteAttemptType_framed : Framed T .statement (noteAttemptType target annot) := by
  unfold noteAttemptType
  split
  · refine (learn_framed fun facts => facts.noteType_grows target _).bind fun _ => ?_
    refine .step (resolve_plain _) fun type => ?_
    exact noteOption_framed _ _
  · exact .pure ()

lemma attempt?_framed {first : Stmt} (h : T.Supplies first.isSupplied) :
    Framed T .statement (attempt? first) := by
  unfold attempt?
  split
  · refine .step (exprLeavesResult_plain _) fun leaves => ?_
    split
    · exact .pure none
    refine .step (renderedType_plain _) fun type => ?_
    refine (unhandled_framed h type).bind fun call => ?_
    refine (noteAttemptType_framed _ _).bind fun _ => ?_
    exact .read fun c _ => .pure _
  · refine .step (exprLeavesResult_plain _) fun leaves => ?_
    split
    · exact (unhandled_framed h none).map
    · exact .pure none
  · exact .pure none

lemma markTail_framed (isLast : Bool) : Framed T .statement (markTail isLast) :=
  .change (fun _ h => h) fun _ => rfl

/-! ## Statements -/

mutual

/-- A statement keeps all that does not concern the variables of its function. It keeps the terms,
if they allow the errors that the user is told about. -/
lemma stmtCode_framed (told : TellsErrors T) (s : Stmt)
    (h : T.Supplies s.isSupplied) : Framed T .statement (stmtCode s) := by
  match s with
  | .assign .. =>
    rw [stmtCode]
    exact (assign_framed _ h _ _ _).map
  | .tupleUnpack .. =>
    rw [stmtCode]
    exact (Framed.written (tupleUnpack_plain _ h _ _)).map
  | .attrAssign .. =>
    obtain ⟨hobj, hvalue⟩ := h.parts
    rw [stmtCode]
    exact (Framed.written (attrAssign_plain hobj _ hvalue)).map
  | .subscriptAssign .. =>
    obtain ⟨h, hvalue⟩ := h.parts
    obtain ⟨hobj, hindex⟩ := h.parts
    rw [stmtCode]
    exact (Framed.written (subscriptAssign_plain hobj hindex hvalue)).map
  | .ret .. =>
    rw [stmtCode]
    exact (Framed.of_leaves (ret_plain h).keeps (ret_leaves _)).map
  | .ifStmt condition thenBody elifs elseBody _ =>
    obtain ⟨h, helse⟩ := h.parts
    obtain ⟨h, helifs⟩ := h.parts
    obtain ⟨hcondition, hthen⟩ := h.parts
    rw [stmtCode]
    refine .read fun c _ => ?_
    refine (Framed.listMapM fun v _ => hoist_framed thenBody v).bind fun hoisted => ?_
    refine (Framed.written (branchHead_plain hcondition)).bind fun head => ?_
    refine (deeper_framed (withUnwrapped_framed _ (keepingTail_framed
      (blockCode_framed told _ (fun _ => rfl) thenBody hthen 0)))).bind fun first => ?_
    refine (elifCode_framed told _ elifs helifs).bind fun branches => ?_
    refine (deeper_framed (keepingTail_framed
      (blockCode_framed told _ (fun _ => rfl) elseBody helse 0))).bind fun otherwise => ?_
    exact (learn_framed fun facts => facts.guard_grows _).map
  | .whileLoop condition body _ =>
    obtain ⟨hcondition, hbody⟩ := h.parts
    rw [stmtCode]
    refine (Framed.written (written_plain hcondition)).bind fun w => ?_
    exact (deeper_framed (keepingTail_framed
      (blockCode_framed told _ (fun _ => rfl) body hbody 0))).map
  | .forLoop target source body _ =>
    obtain ⟨hsource, hbody⟩ := h.parts
    rw [stmtCode]
    refine (Framed.written (written_plain hsource)).bind fun items => ?_
    refine .read fun c _ => ?_
    exact (deeper_framed (keepingTail_framed
      (blockCode_framed told _ (fun _ => rfl) body hbody 0))).map
  | .breakLoop _ | .continueLoop _ | .pass _ | .other .. =>
    rw [stmtCode]
    exact .pure _
  | .expr value _ =>
    rw [stmtCode]
    exact (Framed.written (written_plain h)).map
  | .withBlock resource target body _ =>
    obtain ⟨hresource, hbody⟩ := h.parts
    rw [stmtCode]
    refine (Framed.written (written_plain hresource)).bind fun w => ?_
    refine .read fun c _ => ?_
    exact (deeper_framed (keepingTail_framed
      (blockCode_framed told _ (fun _ => rfl) body hbody 0))).map
  | .tryBlock body [] elseBody finallyBody _ =>
    obtain ⟨h, hfinally⟩ := h.parts
    obtain ⟨h, helse⟩ := h.parts
    obtain ⟨hbody, -⟩ := h.parts
    rw [stmtCode]
    refine (deeper_framed (keepingTail_framed
      (blockCode_framed told _ (fun _ => rfl) body hbody 0))).bind fun codes => ?_
    refine (keepingTail_framed (blockCode_framed told _ (fun _ => rfl) elseBody helse 0)).bind
      fun elseCodes => ?_
    exact (keepingTail_framed (blockCode_framed told _ (fun _ => rfl) finallyBody hfinally 0)).map
  | .tryBlock _ (_ :: _) _ (_ :: _) _ | .tryBlock [] (_ :: _) _ [] _ =>
    rw [stmtCode]
    exact .throw (told _ rfl)
  | .tryBlock (first :: rest) ((_, bound, handler) :: _) elseBody [] line =>
    obtain ⟨h, -⟩ := h.parts
    obtain ⟨h, helse⟩ := h.parts
    obtain ⟨hbody, hhandlers⟩ := h.parts
    obtain ⟨hfirst, hrest⟩ := hbody.parts
    rw [stmtCode]
    refine (attempt?_framed hfirst).bind fun a => ?_
    split
    · exact .throw (told _ rfl)
    refine .read fun c _ => ?_
    refine Framed.bind (deeper_framed (deeper_framed (keepingTail_framed ?_))) fun okBody => ?_
    · refine (blockCode_framed told _ helse rest hrest 0).bind fun codes => ?_
      exact (blockCode_framed told _ (fun _ => rfl) elseBody helse _).map
    exact (deeper_framed (deeper_framed (keepingTail_framed
      (blockCode_framed told _ (fun _ => rfl) handler hhandlers.parts.1 0)))).map
  | .raise .. =>
    rw [stmtCode]
    exact (Framed.written (raise_plain h)).map

lemma blockCode_framed (told : TellsErrors T) (tail : Bool) {following : List Stmt}
    (hfollowing : T.Supplies (IR.blockSupplied following)) (body : List Stmt)
    (h : T.Supplies (IR.blockSupplied body)) (skip : Nat) :
    Framed T .statement (blockCode tail following body skip) := by
  match body, skip with
  | [], skip =>
    rw [blockCode]
    exact .pure _
  | _ :: rest, skip + 1 =>
    rw [blockCode]
    exact blockCode_framed told tail hfollowing rest h.parts.2 skip
  | s :: rest, 0 =>
    obtain ⟨hs, hrest⟩ := h.parts
    rw [blockCode]
    refine (of_leaves (filledList?_built s fun hE => ?_) (filledList?_leaves s _)).bind fun filled => ?_
    · rw [IR.blockSupplied_append, hrest hE, hfollowing hE, Bool.and_self]
    split
    · refine (markTail_framed false).bind fun _ => ?_
      exact (blockCode_framed told tail hfollowing rest hrest _).map
    · refine (markTail_framed _).bind fun _ => ?_
      refine (stmtCode_framed told s hs).bind fun code => ?_
      exact (blockCode_framed told tail hfollowing rest hrest 0).map

lemma elifCode_framed (told : TellsErrors T) (tail : Bool) (elifs : List IR.Elif)
    (h : T.Supplies (IR.elifsSupplied elifs)) : Framed T .statement (elifCode tail elifs) := by
  match elifs with
  | [] =>
    rw [elifCode]
    exact .pure _
  | (condition, body) :: branches =>
    obtain ⟨h, hbranches⟩ := h.parts
    obtain ⟨hcondition, hbody⟩ := h.parts
    rw [elifCode]
    refine (Framed.written (branchHead_plain hcondition)).bind fun head => ?_
    refine (deeper_framed (withUnwrapped_framed _ (keepingTail_framed
      (blockCode_framed told tail (fun _ => rfl) body hbody 0)))).bind fun codes => ?_
    exact (elifCode_framed told tail branches hbranches).map

end

end Emit

end Oxidize
