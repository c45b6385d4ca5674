import Oxidize.Proofs.Emission.Steps

/-!
# Steps that do not see what earlier functions left

Some of what the emitter knows only ever grows while a module is written: the variables that were
hoisted, the native types in use, and the imports that the written program needs. An action is plain
if it does not, but for asking which method a native type has. What else it may look at and change
is its manner: writing an expression is light, it only notes imports and variables that are changed
in place, and it looks at none of them. So it gives the same result in all contexts that differ in
these fields only (`Acts.result_congr`).
-/

namespace Oxidize

open Emitter Registry

variable {x : Emit α}

/-- The context without the variables that are changed in place and the imports that the written
program needs. -/
def Context.frame (c : Context) : Context :=
  { c with mutVars := [], libraryImports := [], extraImports := [] }

/-- Changes of the context that keep what is known about variables and the imported names, and do
not see what only ever grows. -/
structure Shy (f : Context → Context) : Prop where
  toFacts : ∀ c, (f c).toFacts = c.toFacts := by exact fun _ => rfl
  crateImports : ∀ c, (f c).crateImports = c.crateImports := by exact fun _ => rfl
  blind : ∀ c, (f c.blind).blind = (f c).blind := by exact fun _ => rfl

structure Modest (f : Context → Context) : Prop extends Shy f where
  paramTypes : ∀ c, (f c).paramTypes = c.paramTypes := by exact fun _ => rfl

/-- Shy changes that only concern imports and variables changed in place, and forget none of these
variables. -/
structure Light (f : Context → Context) : Prop where
  toFacts : ∀ c, (f c).toFacts = c.toFacts := by exact fun _ => rfl
  crateImports : ∀ c, (f c).crateImports = c.crateImports := by exact fun _ => rfl
  blind : ∀ c, (f c.blind).blind = (f c).blind := by exact fun _ => rfl
  frame : ∀ c, (f c).frame = c.frame := by exact fun _ => rfl
  grows : ∀ c, ∀ v ∈ c.mutVars, v ∈ (f c).mutVars := by exact fun _ _ hv => hv

variable {f : Context → Context}

lemma Modest.quiet (hf : Modest f) : Quiet f :=
  ⟨hf.toFacts, hf.crateImports, hf.paramTypes⟩

lemma Light.modest (hf : Light f) : Modest f :=
  ⟨⟨hf.toFacts, hf.crateImports, hf.blind⟩, fun c => (congrArg Context.paramTypes (hf.frame c) :)⟩

namespace Manner

/-- Modest changes, and a look at the variables that are changed in place. -/
def shy : Manner :=
  ⟨Modest, true⟩

/-- Light changes, and no look at the variables that are changed in place. -/
def light : Manner :=
  ⟨Light, false⟩

def still : Manner :=
  ⟨fun _ => False, true⟩

end Manner

/-- An action of emission that sees nothing of what only ever grows, but for the methods of native
types. -/
abbrev Plain (C : Manner) (T : Terms) {α : Type} (Q : α → Prop) (x : Emit α) : Prop :=
  Acts false C T Q x

/-- A plain and light action, whatever it gives. -/
abbrev Mild (T : Terms) {α : Type} (x : Emit α) : Prop :=
  Plain .light T Any x

section Laws

variable {C D : Manner} {T : Terms} {α β : Type}
variable {P Q : α → Prop}

namespace Acts

variable {x : Emit α}

lemma mono (hx : Plain C T Q x) (hchanges : ∀ f, C.changes f → D.changes f)
    (hlooks : C.looks = true → D.looks = true) : Plain D T Q x :=
  hx.weaken (fun h => h) hchanges hlooks

lemma shy (hx : Plain .light T Q x) : Plain .shy T Q x :=
  hx.mono (fun _ hf => Light.modest hf) fun _ => rfl

lemma built (hx : Plain C T Q x) : Built C.changes T Q x :=
  hx.weaken nofun (fun _ hf => hf) fun _ => rfl

lemma quiet (hx : Plain .shy T Q x) : Built Quiet T Q x :=
  hx.built.mono fun _ hf => Modest.quiet hf

lemma keeps (hx : Plain .shy T Q x) : Built (Keeps T) T Q x :=
  hx.quiet.keeps

lemma any (hx : Plain C T P x) : Plain C T Any x :=
  hx.known fun _ _ _ _ _ => trivial

/-- What a rule finds is given, and else the rest is tried. -/
lemma orElse {f : Option α → Emit β} {g : α → β} {rule : Emit (Option α)} {R : Option α → Prop}
    (hrule : Plain C T R rule) (hrest : Plain C T Any (f none))
    (hfound : ∀ a, f (some a) = Pure.pure (g a)) : Plain C T Any (rule >>= f) := by
  refine hrule.bind fun found _ => ?_
  cases found with
  | some a => exact hfound a ▸ done
  | none => exact hrest

lemma orValueFault {x : Except ValueFault β} {Q : β → Prop} {isUsable : α → Bool} {a : α}
    (ha : Usable T.errors isUsable a) (hok : isUsable a = true → ∃ b, x = .ok b)
    (hQ : ∀ b, x = .ok b → Q b) : Plain C T Q (Emit.orValueFault x) := by
  cases x with
  | ok b => exact .pure (hQ b rfl)
  | error fault =>
    refine .throw (Classical.byContradiction fun hE => ?_)
    obtain ⟨b, hb⟩ := hok (ha ⟨fault, hE⟩)
    cases hb

lemma orValueFault_free {x : Except ValueFault α} : Plain C .free Any (Emit.orValueFault x) :=
  .orValueFault (.free : Usable _ (fun _ : Unit => false) ()) nofun fun _ _ => trivial

lemma optionMapM {o : Option α} {f : α → Emit β} (h : ∀ a ∈ o, Plain C T Any (f a)) :
    Plain C T Any (o.mapM f) := by
  cases o with
  | none => exact .done
  | some a => exact (h a rfl).map

end Acts

end Laws

/-! ## Running a plain action -/

structure Resolver.Same (r s : Resolver) : Prop where
  packages : s.registry.packages = r.registry.packages
  classes : s.classes = r.classes
  crateImports : s.crateImports = r.crateImports

namespace Resolver.Same

lemma refl (r : Resolver) : r.Same r :=
  ⟨rfl, rfl, rfl⟩

lemma symm {r s : Resolver} (h : r.Same s) : s.Same r :=
  ⟨h.packages.symm, h.classes.symm, h.crateImports.symm⟩

lemma trans {r s t : Resolver} (hrs : r.Same s) (hst : s.Same t) : r.Same t :=
  ⟨hst.packages.trans hrs.packages, hst.classes.trans hrs.classes,
    hst.crateImports.trans hrs.crateImports⟩

end Resolver.Same

section Runs

variable {C : Manner} {α : Type} {Q : α → Prop}

lemma Query.run_congr {T : Terms} {l : Lookup α} (hl : Query T Q l) {g h : Registry}
    (hp : h.packages = g.packages) : (l.run h).1 = (l.run g).1 := by
  cases hl with
  | pure _ | note _ _ _ => rfl
  | function? key => rw [function?_run, function?_run, hp]
  | @method? type method crate? _ =>
    cases crate? with
    | none => rw [method?_none_run, method?_none_run, hp]
    | some crate => rw [method?_some_run, method?_some_run, hp]
  | type? => rw [type?_some_run, type?_some_run, hp]
  | variant? => rw [variant?_some_run, variant?_some_run, hp]
  | @package? crate _ =>
    show h.packages.get? crate = g.packages.get? crate
    rw [hp]
  | importedCrate? => exact (Registry.Alike.of_packages_eq Any Any Any hp).module _ trivial

namespace Asks

lemma run_same {T : Terms} {x : Resolve α} (hx : Consults T Q x) {r : Resolver}
    (hr : r.Within T) : r.Same (x.run r).2 := by
  induction hx generalizing r with
  | pure _ | imported | classType? _ | need _ => exact ⟨rfl, rfl, rfl⟩
  | neededUses hall | importName hall | takeImports hall => cases hall
  | @bind _ _ _ _ x f hx _ ihx ihf =>
    obtain ⟨ha, hr', -⟩ := hx.run_spec r hr
    rw [StateT.run_bind]
    exact (ihx hr).trans (ihf _ ha hr')
  | lookup hl => exact ⟨(hl.extends_run r.registry).packages, rfl, rfl⟩

lemma run_congr {x : Resolve α} (hx : Consults .free Q x) {r s : Resolver} (h : r.Same s) :
    (x.run s).1 = (x.run r).1 := by
  induction hx generalizing r s with
  | pure _ | need _ => rfl
  | neededUses hall | importName hall | takeImports hall => cases hall
  | imported => exact h.crateImports
  | classType? name =>
    show s.classes.get? name = r.classes.get? name
    rw [h.classes]
  | @bind _ _ _ _ x f hx _ ihx ihf =>
    have ha := (hx.run_spec r r.within_free).1
    have hafter : (x.run r).2.Same (x.run s).2 :=
      (hx.run_same r.within_free).symm.trans (h.trans (hx.run_same s.within_free))
    rw [StateT.run_bind, StateT.run_bind]
    show ((f (x.run s).1).run (x.run s).2).1 = ((f (x.run r).1).run (x.run r).2).1
    rw [ihx h]
    exact ihf _ ha hafter
  | lookup hl => exact hl.run_congr h.packages

end Asks

/-- Emitters that differ only in what writing expressions notes. -/
structure Emitter.Kin (e e' : Emitter) : Prop where
  resolver : e.resolver.Same e'.resolver
  frame : e'.ctx.frame = e.ctx.frame

namespace Emitter.Kin

lemma refl (e : Emitter) : e.Kin e :=
  ⟨.refl _, rfl⟩

variable {e e' : Emitter}

lemma symm (h : e.Kin e') : e'.Kin e :=
  ⟨h.resolver.symm, h.frame.symm⟩

lemma trans {e₁ e₂ e₃ : Emitter} (h₁₂ : e₁.Kin e₂) (h₂₃ : e₂.Kin e₃) : e₁.Kin e₃ :=
  ⟨h₁₂.resolver.trans h₂₃.resolver, h₂₃.frame.trans h₁₂.frame⟩

lemma bare (h : e.Kin e') : e'.ctx.bare = e.ctx.bare :=
  (congrArg Context.bare h.frame :)

lemma toFacts (h : e.Kin e') : e'.ctx.toFacts = e.ctx.toFacts :=
  (congrArg Context.toFacts h.frame :)

end Emitter.Kin

namespace Acts

variable {e : Emitter} {x : Emit α}

lemma result (hx : Plain C .free Q x) {e' : Emitter} {a : α} (h : e.run x = (.ok a, e')) : Q a :=
  (hx.run_spec (fun f _ => .free f) e e.within_free).1 a (by rw [h])

lemma run_rel {T : Terms} {R : Emitter → Emitter → Prop} (refl : ∀ e, R e e)
    (trans : ∀ {e₁ e₂ e₃}, R e₁ e₂ → R e₂ e₃ → R e₁ e₃)
    (change : ∀ e f, C.changes f → R e { e with ctx := f e.ctx })
    (resolving : ∀ e r, e.resolver.Same r → R e { e with resolver := r })
    (keeps : ∀ f, C.changes f → Keeps T f) (hx : Plain C T Q x)
    (he : e.Within T) : R e (e.run x).2 := by
  induction hx generalizing e with
  | pure _ | throw _ | nativeMethod? _ _ => exact refl e
  | context hall | asking hall => cases hall
  | @bind _ _ _ _ x f hx _ ihx ihf =>
    have hfirst := ihx he
    obtain ⟨hP, -, he', -⟩ := hx.run_spec keeps e he
    rcases hrun : e.run x with ⟨result, e'⟩
    rw [hrun] at hfirst hP he'
    cases result with
    | error error =>
      rw [run_bind_error hrun]
      exact hfirst
    | ok a =>
      rw [run_bind_ok hrun]
      exact trans hfirst (ihf a (hP a rfl) he')
  | known _ _ ih => exact ih he
  | read _ _ ih | look _ _ _ ih =>
    rw [run_bind_ok (run_context e)]
    exact ih e.ctx he.ctx he
  | change hf => exact change e _ hf
  | resolving hr => exact resolving e _ (hr.run_same he.resolver)

lemma kin_run (hx : Plain .light .free Q x) (e : Emitter) : e.Kin (e.run x).2 :=
  hx.run_rel .refl .trans (fun e _ hf => ⟨.refl _, Light.frame hf e.ctx⟩)
    (fun _ _ hr => ⟨hr, rfl⟩) (fun f _ => .free f) e.within_free

/-- What was noted by writing expressions does not change the result of a light action. -/
lemma result_congr (hx : Plain .light .free Q x) {e' : Emitter} (h : e.Kin e') :
    (e'.run x).1 = (e.run x).1 := by
  induction hx generalizing e e' with
  | pure _ | throw _ | change _ => rfl
  | context hall | asking hall => cases hall
  | @bind _ _ _ _ x f hx _ ihx ihf =>
    have hfirst := ihx h
    have hafter : (e.run x).2.Kin (e'.run x).2 :=
      (hx.kin_run e).symm.trans (h.trans (hx.kin_run e'))
    rcases hrun : e.run x with ⟨result, e₁⟩
    rcases hrun' : e'.run x with ⟨result', e₁'⟩
    rw [hrun, hrun'] at hfirst hafter
    obtain rfl : result' = result := hfirst
    cases result' with
    | error error => rw [run_bind_error hrun, run_bind_error hrun']
    | ok a =>
      rw [run_bind_ok hrun, run_bind_ok hrun']
      exact ihf a (hx.result hrun) hafter
  | known _ _ ih => exact ih h
  | @read _ _ f hf _ ih =>
    have hbare (c : Context) : f c.bare = f c := congrFun hf c
    rw [run_bind_ok (run_context e), run_bind_ok (run_context e'), ← hbare e'.ctx, h.bare, hbare]
    exact ih e.ctx e.ctx.within_free h
  | look hC _ _ _ => cases hC
  | nativeMethod? obj method =>
    show Except.ok (e'.ctx.toFacts.nativeMethod? obj method)
      = .ok (e.ctx.toFacts.nativeMethod? obj method)
    rw [h.toFacts]
  | resolving hr =>
    exact congrArg Except.ok (hr.run_congr h.resolver)

end Acts

end Runs

end Oxidize
