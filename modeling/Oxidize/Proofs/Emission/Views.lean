import Oxidize.Proofs.Emission.Plain

/-!
# What a written item leaves behind

A view is a part of the context together with the contexts from which actions keep this part. A
statement keeps all that does not concern the variables of its function, the body of a function
keeps all but the variables that are changed in place, and a function or a class keeps all but the
four sets that only ever grow: the hoisted variables, the native types in use, and the imports.
-/

namespace Oxidize

open Emitter

structure View where
  part : Context → Context
  ready : Context → Prop
  ready_of_part : ∀ {c c' : Context}, part c' = part c → ready c → ready c'

def View.seen (v : View) (c : Context) : Context × NameSet × NameSet × NameSet :=
  (v.part c, c.unwrapped, c.hoisted, c.nativeTypes)

/-- The emitter after an action that keeps the view: what it answers with is the same, and sets that
may differ only grow. -/
structure Emitter.Keeps (v : View) (e e' : Emitter) : Prop where
  resolver : e.resolver.Same e'.resolver
  part : v.part e'.ctx = v.part e.ctx
  unwrapped : e'.ctx.unwrapped ⊆ e.ctx.unwrapped
  hoisted : e.ctx.hoisted ⊆ e'.ctx.hoisted
  nativeTypes : e.ctx.nativeTypes ⊆ e'.ctx.nativeTypes

namespace Emitter.Keeps

lemma refl (v : View) (e : Emitter) : e.Keeps v e :=
  ⟨.refl _, rfl, List.Subset.refl _, List.Subset.refl _, List.Subset.refl _⟩

lemma trans {v : View} {e₁ e₂ e₃ : Emitter} (h : e₁.Keeps v e₂) (h' : e₂.Keeps v e₃) :
    e₁.Keeps v e₃ :=
  ⟨h.resolver.trans h'.resolver, h'.part.trans h.part, List.Subset.trans h'.unwrapped h.unwrapped,
    List.Subset.trans h.hoisted h'.hoisted, List.Subset.trans h.nativeTypes h'.nativeTypes⟩

lemma change {v : View} {e : Emitter} {f : Context → Context}
    (hpart : v.part (f e.ctx) = v.part e.ctx) (hunwrapped : (f e.ctx).unwrapped = e.ctx.unwrapped)
    (hhoisted : (f e.ctx).hoisted = e.ctx.hoisted)
    (htypes : (f e.ctx).nativeTypes = e.ctx.nativeTypes) : e.Keeps v { e with ctx := f e.ctx } := by
  refine ⟨.refl _, hpart, ?_, ?_, ?_⟩
  · exact fun _ h => hunwrapped ▸ h
  · exact fun _ h => hhoisted ▸ h
  · exact fun _ h => htypes ▸ h

end Emitter.Keeps

namespace View

structure Idle (c : Context) : Prop where
  targetType : c.targetType = none
  storesResult : c.storesResult = false
  inDirectReturn : c.inDirectReturn = false

/-- Between items nothing is known about the variables of a function. -/
structure AtRest (c : Context) : Prop extends Idle c where
  unwrapped : c.unwrapped = []
  narrowed : c.narrowed = []
  inLastStmt : c.inLastStmt = false

lemma Idle.of_eq {c c' : Context} (hc : Idle c)
    (h : (c'.targetType, c'.storesResult, c'.inDirectReturn) =
      (c.targetType, c.storesResult, c.inDirectReturn)) : Idle c' := by
  simp only [Prod.mk.injEq] at h
  obtain ⟨htarget, hstores, hdirect⟩ := h
  exact ⟨htarget.trans hc.targetType, hstores.trans hc.storesResult, hdirect.trans hc.inDirectReturn⟩

lemma AtRest.of_eq {c c' : Context} (hc : AtRest c) (hidle : Idle c')
    (h : (c'.unwrapped, c'.narrowed, c'.inLastStmt) = (c.unwrapped, c.narrowed, c.inLastStmt)) :
    AtRest c' := by
  simp only [Prod.mk.injEq] at h
  obtain ⟨hunwrapped, hnarrowed, hlast⟩ := h
  exact ⟨hidle, hunwrapped.trans hc.unwrapped, hnarrowed.trans hc.narrowed,
    hlast.trans hc.inLastStmt⟩

lemma AtRest.eq {c : Context} (hc : AtRest c) :
    { c with unwrapped := [], narrowed := [], inLastStmt := false } = c := by
  have hset (unwrapped narrowed : NameSet) (inLastStmt : Bool) (hu : c.unwrapped = unwrapped)
      (hn : c.narrowed = narrowed) (hl : c.inLastStmt = inLastStmt) :
      { c with unwrapped, narrowed, inLastStmt } = c := by
    subst hu hn hl
    rfl
  exact hset _ _ _ hc.unwrapped hc.narrowed hc.inLastStmt

def statement : View where
  part c := { c.blind with
    typeEnv := [], narrowed := [], mutVars := [], optionVars := [], unwrapped := []
    inLastStmt := false }
  ready := Idle
  ready_of_part h hc := hc.of_eq (congrArg
    (fun d : Context => (d.targetType, d.storesResult, d.inDirectReturn)) h :)

/-- What is kept from the head of a function to the end of its statements. -/
def entry : View where
  part c := { statement.part c with
    inResult := false, inOption := false, returnType := none, paramTypes := []
    readVars := [], assignmentCounts := [] }
  ready := Idle
  ready_of_part h hc := hc.of_eq (congrArg
    (fun d : Context => (d.targetType, d.storesResult, d.inDirectReturn)) h :)

/-- Where the items are written that a view is about: where nothing is known about the variables of
a function, or wherever no expression is being written. -/
inductive Outset where
  | rest
  | idle

namespace Outset

def ready : Outset → Context → Prop
  | rest => AtRest
  | idle => Idle

/-- What is known about the variables of a function is seen only if it is nothing. -/
def seen {α : Type} : Outset → α → α → α
  | rest, known, _ => known
  | idle, _, nothing => nothing

def part (o : Outset) (c : Context) : Context :=
  { c.blind with
    unwrapped := o.seen c.unwrapped [], narrowed := o.seen c.narrowed []
    inLastStmt := o.seen c.inLastStmt false }

variable {o : Outset} {c c' : Context}

lemma idle_of_ready (h : o.ready c) : Idle c := by
  cases o with
  | rest => exact AtRest.toIdle h
  | idle => exact h

lemma ready_of_part (h : { o.part c' with mutVars := [], inImpl := false, currentClass := none } =
      { o.part c with mutVars := [], inImpl := false, currentClass := none })
    (hc : o.ready c) : o.ready c' := by
  have hidle : Idle c' := (idle_of_ready hc).of_eq
    (congrArg (fun d : Context => (d.targetType, d.storesResult, d.inDirectReturn)) h :)
  cases o with
  | rest =>
    exact AtRest.of_eq hc hidle
      (congrArg (fun d : Context => (d.unwrapped, d.narrowed, d.inLastStmt)) h :)
  | idle => exact hidle

lemma ready_deeper (h : o.ready c) : o.ready { c with indent := c.indent + 1 } := by
  cases o with
  | rest => exact AtRest.of_eq h (h.toIdle.of_eq rfl) rfl
  | idle => exact Idle.of_eq h rfl

end Outset

def body (o : Outset := .rest) : View where
  part c := { o.part c with mutVars := [] }
  ready := o.ready
  ready_of_part h := o.ready_of_part
    (congrArg (fun d : Context => { d with inImpl := false, currentClass := none }) h :)

def item (o : Outset := .rest) : View where
  part := o.part
  ready := o.ready
  ready_of_part h := o.ready_of_part
    (congrArg (fun d : Context => { d with mutVars := [], inImpl := false, currentClass := none }) h :)

def inside (o : Outset := .rest) : View where
  part c := { o.part c with inImpl := false, currentClass := none }
  ready := o.ready
  ready_of_part h := o.ready_of_part (congrArg (fun d : Context => { d with mutVars := [] }) h :)

def outside (o : Outset := .rest) : View where
  part := o.part
  ready c := o.ready c ∧ c.inImpl = false ∧ c.currentClass = none
  ready_of_part h hc :=
    ⟨(item o).ready_of_part h hc.1, (congrArg Context.inImpl h :).trans hc.2.1,
      (congrArg Context.currentClass h :).trans hc.2.2⟩

structure Indents (v : View) : Prop where
  ready : ∀ {c : Context}, v.ready c → v.ready { c with indent := c.indent + 1 }
  part : ∀ {c c' : Context}, v.part c' = v.part { c with indent := c.indent + 1 } →
    v.part { c' with indent := c'.indent - 1 } = v.part c

lemma statement_indents : statement.Indents where
  ready h := h.of_eq rfl
  part h := (congrArg (fun c : Context => { c with indent := c.indent - 1 }) h :)

lemma body_indents (o : Outset) : (body o).Indents where
  ready h := Outset.ready_deeper h
  part h := (congrArg (fun c : Context => { c with indent := c.indent - 1 }) h :)

lemma item_indents (o : Outset) : (item o).Indents where
  ready h := Outset.ready_deeper h
  part h := (congrArg (fun c : Context => { c with indent := c.indent - 1 }) h :)

lemma inside_indents (o : Outset) : (inside o).Indents where
  ready h := Outset.ready_deeper h
  part h := (congrArg (fun c : Context => { c with indent := c.indent - 1 }) h :)

/-- What statements keep of a context of which some fields are hidden. -/
def without (hide : Context → Context) : View where
  part c := statement.part (hide c)
  ready _ := True
  ready_of_part _ _ := trivial

end View

lemma Emitter.Keeps.of_without (hide : Context → Context) {e e' : Emitter}
    (h : e.Keeps (.without hide) e') (hbefore : hide e.ctx = e.ctx) (hafter : hide e'.ctx = e'.ctx) :
    e.Keeps .statement e' := by
  have hpart : View.statement.part (hide e'.ctx) = View.statement.part (hide e.ctx) := h.part
  rw [hbefore, hafter] at hpart
  exact ⟨h.resolver, hpart, h.unwrapped, h.hoisted, h.nativeTypes⟩

def Leaves {α : Type} (v : View) (x : Emit α) : Prop :=
  ∀ ⦃e : Emitter⦄ ⦃a : α⦄ ⦃e' : Emitter⦄, v.ready e.ctx → e.run x = (.ok a, e') → e.Keeps v e'

namespace Leaves

variable {v w : View} {α β : Type}

lemma pure (a : α) : Leaves v (pure a : Emit α) := by
  intro e b e' _ h
  cases h
  exact .refl v e

lemma throw (error : EmitError) : Leaves v (throw error : Emit α) := by
  intro e b e' _ h
  cases h

lemma after {x : Emit α} (hx : Leaves v x) {e e₁ e₂ : Emitter} {a : α} (he : v.ready e.ctx)
    (h : e.Keeps v e₁) (hrun : e₁.run x = (.ok a, e₂)) : e.Keeps v e₂ :=
  h.trans (hx (v.ready_of_part h.part he) hrun)

lemma bind {x : Emit α} {f : α → Emit β} (hx : Leaves v x) (hf : ∀ a, Leaves v (f a)) :
    Leaves v (x >>= f) := by
  intro e b e'' he h
  obtain ⟨a, e', hrun, h⟩ := of_run_bind h
  exact (hf a).after he (hx he hrun) h

lemma read {f : Context → Emit α} (hf : ∀ c, Leaves v (f c)) : Leaves v (Emit.context >>= f) := by
  intro e a e' he h
  rw [run_bind_ok (run_context e)] at h
  exact hf e.ctx he h

lemma change {f : Context → Context} (hf : ∀ c, v.seen (f c) = v.seen c) :
    Leaves v (Emit.change f) := by
  intro e u e' _ h
  cases h
  obtain ⟨hpart, hsets⟩ := Prod.mk.inj (hf e.ctx)
  obtain ⟨hunwrapped, hsets⟩ := Prod.mk.inj hsets
  obtain ⟨hhoisted, htypes⟩ := Prod.mk.inj hsets
  exact .change hpart hunwrapped hhoisted htypes

lemma listMapM {l : List α} {f : α → Emit β} (hf : ∀ a ∈ l, Leaves v (f a)) :
    Leaves v (l.mapM f) := by
  induction l with
  | nil => exact .pure []
  | cons a l ih =>
    rw [List.mapM_cons]
    refine (hf a (by simp)).bind fun b => ?_
    exact (ih fun a ha => hf a (by simp [ha])).bind fun bs => .pure _

end Leaves

/-- The action keeps the terms and, from a context that is ready, the view. -/
structure Framed (T : Terms) (v : View) {α : Type} (x : Emit α) : Prop where
  built : Built (Keeps T) T Any x
  keeps : ∀ ⦃e : Emitter⦄ ⦃a : α⦄ ⦃e' : Emitter⦄, e.Within T → v.ready e.ctx →
    e.run x = (.ok a, e') → e.Keeps v e'

namespace Framed

variable {T : Terms} {v : View} {α β : Type} {Q : α → Prop} {x : Emit α}

lemma leaves (hx : Framed .free v x) : Leaves v x :=
  fun e _ _ he h => hx.keeps e.within_free he h

lemma of_leaves (hx : Built (Keeps T) T Any x) (hl : Leaves v x) : Framed T v x :=
  ⟨hx, fun _ _ _ _ he h => hl he h⟩

lemma pure (a : α) : Framed T v (pure a : Emit α) :=
  .of_leaves (.done) (.pure a)

lemma throw {error : EmitError} (h : T.errors error) : Framed T v (throw error : Emit α) :=
  .of_leaves (.throw h) (.throw error)

variable {f : α → Emit β}

lemma bind (hx : Framed T v x) (hf : ∀ a, Framed T v (f a)) : Framed T v (x >>= f) where
  built := hx.built.bind fun a _ => (hf a).built
  keeps e b e'' hin he h := by
    obtain ⟨a, e', hrun, h⟩ := of_run_bind h
    have hin' := (hx.built.run_spec (fun _ hf => hf) e hin).2.2.1
    rw [hrun] at hin'
    have hkept := hx.keeps hin he hrun
    exact hkept.trans ((hf a).keeps hin' (v.ready_of_part hkept.part he) h)

lemma map {f : α → β} (hx : Framed T v x) : Framed T v (do return f (← x)) :=
  hx.bind fun a => pure (f a)

lemma read {f : Context → Emit α} (hf : ∀ c, c.Within T → Framed T v (f c)) :
    Framed T v (Emit.context >>= f) where
  built := (Acts.context rfl).bind fun c hc => (hf c hc).built
  keeps _ _ _ hin he h := (hf _ hin.ctx).keeps hin he h

lemma change {f : Context → Context} (hf : Keeps T f) (hseen : ∀ c, v.seen (f c) = v.seen c) :
    Framed T v (Emit.change f) :=
  .of_leaves (.change hf) (.change hseen)

lemma listMapM {l : List α} (hf : ∀ a ∈ l, Framed T v (f a)) : Framed T v (l.mapM f) := by
  induction l with
  | nil => exact .pure []
  | cons a l ih =>
    rw [List.mapM_cons]
    refine (hf a (by simp)).bind fun b => ?_
    exact (ih fun a ha => hf a (by simp [ha])).map

lemma listForM {l : List α} {f : α → Emit Unit} (hf : ∀ a ∈ l, Framed T v (f a)) :
    Framed T v (l.forM f) := by
  induction l with
  | nil => exact .pure ()
  | cons a l ih => exact (hf a (by simp)).bind fun _ => ih fun a ha => hf a (by simp [ha])

/-- An action that changes nothing keeps every view. -/
lemma still (hx : Plain .still T Q x) : Framed T v x where
  built := hx.any.built.mono fun _ hf => False.elim hf
  keeps e a e' hin _ h := by
    have hkept := hx.run_rel (Keeps.refl v) Keeps.trans (fun _ _ hf => False.elim hf)
      (fun e r hr => ⟨hr, rfl, List.Subset.refl _, List.Subset.refl _, List.Subset.refl _⟩)
      (fun _ hf => False.elim hf) hin
    rwa [h] at hkept

lemma step (hx : Plain .still T Q x) (hf : ∀ a, Framed T v (f a)) : Framed T v (x >>= f) :=
  (still hx).bind hf

/-- An action that only notes variables changed in place and imports keeps the views in which these
are not seen. -/
lemma light (hv : ∀ c c', c'.frame = c.frame → v.part c' = v.part c)
    (hx : Plain .light T Q x) : Framed T v x where
  built := hx.shy.keeps.known fun _ _ _ _ _ => trivial
  keeps e a e' hin _ h := by
    have hkept := hx.run_rel (Keeps.refl v) Keeps.trans (fun e f hf => by
        have hframe := Light.frame hf e.ctx
        have hfacts := Light.toFacts hf e.ctx
        exact .change (hv _ _ hframe) (congrArg Context.unwrapped hframe :) (by rw [hfacts])
          (by rw [hfacts]))
      (fun e r hr => ⟨hr, rfl, List.Subset.refl _, List.Subset.refl _, List.Subset.refl _⟩)
      (fun _ hf => (Light.modest hf).quiet.keeps) hin
    rwa [h] at hkept

lemma written (hx : Plain .light T Q x) : Framed T .statement x :=
  light (fun _ _ h => (congrArg View.statement.part h :)) hx

lemma view {w : View} (hx : Framed T v x) (hready : ∀ {c}, w.ready c → v.ready c)
    (hpart : ∀ {c c'}, v.part c' = v.part c → w.part c' = w.part c) : Framed T w x where
  built := hx.built
  keeps e a e' hin he h := by
    have hkept := hx.keeps hin (hready he) h
    exact { hkept with part := hpart hkept.part }

lemma entry (hx : Framed T .statement x) : Framed T .entry x :=
  hx.view (fun h => h) fun h => (congrArg (fun c : Context => { c with
    inResult := false, inOption := false, returnType := none, paramTypes := []
    readVars := [], assignmentCounts := [] }) h :)

variable {o : View.Outset}

lemma inBody (hx : Plain .light T Q x) : Framed T (.body o) x :=
  light (fun _ _ h => (congrArg (View.body o).part h :)) hx

lemma outside (hx : Framed T (.item o) x) : Framed T (.outside o) x :=
  hx.view And.left fun h => h

lemma inside (hx : Framed T (.item o) x) : Framed T (.inside o) x :=
  hx.view (fun h => h) fun h =>
    (congrArg (fun c : Context => { c with inImpl := false, currentClass := none }) h :)

end Framed

/-- Whenever the action succeeds, `P` holds of the context after it. -/
def Ends {α : Type} (P : Context → Prop) (x : Emit α) : Prop :=
  ∀ ⦃e : Emitter⦄ ⦃a : α⦄ ⦃e' : Emitter⦄, e.run x = (.ok a, e') → P e'.ctx

namespace Ends

variable {α β : Type} {P : Context → Prop} {x : Emit α} {f : α → Emit β}

lemma of_bind (hf : ∀ a, Ends P (f a)) : Ends P (x >>= f) := by
  intro e b e' h
  obtain ⟨a, e₁, _, h⟩ := of_run_bind h
  exact hf a h

lemma bind (hx : Ends P x)
    (hf : ∀ {a : α} {e e' : Emitter} {b : β}, e.run (f a) = (.ok b, e') → P e.ctx → P e'.ctx) :
    Ends P (x >>= f) := by
  intro e b e' h
  obtain ⟨a, e₁, hrun, h⟩ := of_run_bind h
  exact hf h (hx hrun)

end Ends

end Oxidize
