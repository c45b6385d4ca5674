import Oxidize.Proofs.Emission.Items

/-!
# Two emitters in step

An emitter that has written other items before knows more hoisted variables and more native types.
Two emitters are near if one of them knows in addition some hoisted variables, and if both agree on
the native types that the program at hand can ask about. An action is in step if near emitters give
the same result and are near again (`InStep`). What is known about variables before it and after it
is part of the statement, and so are the notes of the scan that are kept: all that is shown about
written bodies follows the actions once.
-/

namespace Oxidize

open IR (Expr Stmt Ty Param)
open Emit

/-! ## What both know -/

/-- What is known about variables without what only ever grows. -/
def Facts.blind (facts : Facts) : Facts :=
  { facts with hoisted := [], nativeTypes := [] }

/-- The types that a variable can have: those it is known to have, those that are imported, and
those that annotations name. -/
def Facts.Meets (W : String → Prop) (facts : Facts) (type : String) : Prop :=
  type ∈ facts.typeEnv.values ∨ facts.nativeImports.has type = true ∨ W type

/-- The second knows the variables `leaked` as hoisted, too, and what else it knows makes no
difference. -/
structure Facts.Near (leaked : NameSet) (W : String → Prop) (f₀ f₁ : Facts) : Prop where
  blind : f₁.blind = f₀.blind
  hoisted : ∀ v, v ∈ f₁.hoisted ↔ v ∈ f₀.hoisted ∨ v ∈ leaked
  types : ∀ type, f₀.Meets W type → (type ∈ f₁.nativeTypes ↔ type ∈ f₀.nativeTypes)

namespace Facts.Near

variable {leaked : NameSet} {W : String → Prop} {f₀ f₁ : Facts} (h : f₀.Near leaked W f₁)

include h

lemma typeEnv : f₁.typeEnv = f₀.typeEnv :=
  (congrArg Facts.typeEnv h.blind :)

lemma nativeImports : f₁.nativeImports = f₀.nativeImports :=
  (congrArg Facts.nativeImports h.blind :)

lemma contains_type {type : String} (hmeets : f₀.Meets W type) :
    f₁.nativeTypes.contains type = f₀.nativeTypes.contains type := by
  have hmem := h.types type hmeets
  simp only [List.contains_eq_mem, hmem]

lemma nativeMethod? (obj : Expr) (method : String) :
    f₁.nativeMethod? obj method = f₀.nativeMethod? obj method := by
  unfold Facts.nativeMethod?
  rw [h.typeEnv]
  cases htype : obj.name?.bind f₀.typeEnv.get? with
  | none => rfl
  | some type =>
    obtain ⟨name, _, hget⟩ := Option.bind_eq_some_iff.1 htype
    dsimp only
    rw [h.contains_type (.inl (Table.mem_values_of_get? hget))]

lemma contains_hoisted {v : String}
    (hv : v ∉ f₀.hoisted → v ∉ leaked) : f₁.hoisted.contains v = f₀.hoisted.contains v := by
  have hmem : v ∈ f₁.hoisted ↔ v ∈ f₀.hoisted :=
    (h.hoisted v).trans (or_iff_left_of_imp fun hleaked => Decidable.byContradiction (hv · hleaked))
  simp only [List.contains_eq_mem, hmem]

/-- A variable keeps its name, unless it gets another one where it is not known as hoisted. -/
lemma bindingName {v : String}
    (hv : f₀.bindingName v ≠ v → v ∉ leaked) : f₁.bindingName v = f₀.bindingName v := by
  have hread : f₁.readVars = f₀.readVars := (congrArg Facts.readVars h.blind :)
  have hcounts : f₁.assignmentCounts = f₀.assignmentCounts :=
    (congrArg Facts.assignmentCounts h.blind :)
  by_cases hleaked : v ∈ leaked
  · have hname : f₀.bindingName v = v := Decidable.byContradiction fun hne => hv hne hleaked
    have hknown : v ∈ f₁.hoisted := (h.hoisted v).2 (.inr hleaked)
    rw [hname]
    unfold Facts.bindingName
    rw [if_pos (by simp [hknown])]
  · unfold Facts.bindingName
    rw [hread, hcounts, h.contains_hoisted fun _ => hleaked]

lemma setType (target : String) {type : String} (hmeets : f₀.Meets W type) :
    ({ f₀ with typeEnv := f₀.typeEnv.set target type } : Facts).Near leaked W
      { f₁ with typeEnv := f₁.typeEnv.set target type } := by
  refine ⟨?_, h.hoisted, ?_⟩
  · have hset := congrArg (fun f : Facts => { f with typeEnv := f.typeEnv.set target type }) h.blind
    exact hset
  · intro other hother
    refine h.types other ?_
    rcases hother with hmem | hother
    · rcases Table.mem_values_set hmem with rfl | hmem
      · exact hmeets
      · exact .inl hmem
    · exact .inr hother

lemma noteType (target : String) {annot : Ty} (hW : ∀ type ∈ typeName? annot, W type) :
    (f₀.noteType target annot).Near leaked W (f₁.noteType target annot) := by
  unfold Facts.noteType
  split
  · rename_i type htype
    exact h.setType target (.inr (.inr (hW type (Option.eq_some_of_filter_eq_some htype))))
  · exact h

lemma noteNativeType (target : String) (value : Expr) :
    (f₀.noteNativeType target value).Near leaked W (f₁.noteNativeType target value) := by
  unfold Facts.noteNativeType
  split
  · rename_i obj method _ _ _
    have howner : obj.name?.filter f₁.nativeImports.has = obj.name?.filter f₀.nativeImports.has := by
      rw [h.nativeImports]
    rw [howner, h.nativeMethod?]
    split
    · rename_i owner howner
      exact h.setType target (.inr (.inl (Option.filter_eq_some_iff.1 howner).2))
    split
    · rename_i type _
      refine ⟨?_, h.hoisted, ?_⟩
      · have hset := congrArg
          (fun f : Facts => { f with typeEnv := f.typeEnv.set target type }) h.blind
        exact hset
      · intro other hother
        -- the type of the value is noted by both
        rw [NameSet.mem_add, NameSet.mem_add]
        by_cases heq : other = type
        · simp [heq]
        · have hmeets : f₀.Meets W other := by
            rcases hother with hmem | hother
            · rcases Table.mem_values_set hmem with rfl | hmem
              · exact absurd rfl heq
              · exact .inl hmem
            · exact .inr hother
          rw [h.types other hmeets]
    · exact h
  · exact h

lemma noteValue (target : String) (value : Expr) (annot : Option Ty) :
    (f₀.noteValue target value annot).Near leaked W (f₁.noteValue target value annot) := by
  unfold Facts.noteValue
  split
  · exact h.noteNativeType target value
  · exact h

/-- What does not concern types or hoisted variables may be changed for both. -/
lemma congr {g : Facts → Facts} (hblind : ∀ f : Facts, (g f.blind).blind = (g f).blind)
    (hhoisted : ∀ f : Facts, (g f).hoisted = f.hoisted)
    (htypes : ∀ f : Facts, (g f).nativeTypes = f.nativeTypes)
    (hmeets : ∀ (f : Facts) (type : String), (g f).Meets W type → f.Meets W type) :
    (g f₀).Near leaked W (g f₁) := by
  refine ⟨?_, ?_, ?_⟩
  · rw [← hblind f₁, h.blind, hblind f₀]
  · intro v
    rw [hhoisted, hhoisted]
    exact h.hoisted v
  · intro type htype
    rw [htypes, htypes]
    exact h.types type (hmeets _ _ htype)

lemma hoist (target : String) : ({ f₀ with hoisted := f₀.hoisted.add target } : Facts).Near leaked W
      { f₁ with hoisted := f₁.hoisted.add target } := by
  refine ⟨h.blind, ?_, ?_⟩
  · intro v
    rw [NameSet.mem_add, NameSet.mem_add, h.hoisted v, or_assoc]
  · exact h.types

end Facts.Near

/-! ## Running an action from both -/

/-- Emitters that give the same answers and know the same, but for what makes no difference. -/
structure Emitter.Near (leaked : NameSet) (W : String → Prop) (e₀ e₁ : Emitter) : Prop where
  resolver : e₀.resolver.Same e₁.resolver
  blind : e₁.ctx.blind = e₀.ctx.blind
  facts : e₀.ctx.toFacts.Near leaked W e₁.ctx.toFacts

/-- The variables are noted as mutable, but for those whose note was dropped. -/
def Emitter.HasNoted (noted dropped : List String) (e : Emitter) : Prop :=
  ∀ v ∈ noted, v ∉ dropped → v ∈ e.ctx.mutVars

structure Setting where
  /-- The variables that only the second one knows as hoisted. -/
  leaked : NameSet := []
  /-- The types that annotations name. -/
  types : String → Prop := fun _ => True
  noted : List String := []

/-- Two emitters at a point of a body where the facts are known and some notes were dropped. -/
structure Setting.At (S : Setting) (facts : Facts) (dropped : List String) (e₀ e₁ : Emitter) :
    Prop where
  near : e₀.Near S.leaked S.types e₁
  facts : e₀.ctx.toFacts = facts
  noted : e₀.HasNoted S.noted dropped

/-- From both emitters the action gives the same: a value of which `R` holds, with what is known
after it, or an error. -/
inductive Setting.Outcome (S : Setting) (dropped : List String) {α : Type} (R : α → Facts → Prop)
    (x : Emit α) (e₀ e₁ : Emitter) : Prop
  | ok {a : α} {e₀' e₁' : Emitter} {known : Facts} (h₀ : e₀.run x = (.ok a, e₀'))
    (h₁ : e₁.run x = (.ok a, e₁')) (hat : S.At known dropped e₀' e₁') (hR : R a known)
  | error {error : EmitError} {e₀' e₁' : Emitter} (h₀ : e₀.run x = (.error error, e₀'))
    (h₁ : e₁.run x = (.error error, e₁'))

lemma Setting.Outcome.result {S : Setting} {dropped : List String} {α : Type} {R : α → Facts → Prop}
    {x : Emit α} {e₀ e₁ : Emitter} (h : S.Outcome dropped R x e₀ e₁) :
    (e₁.run x).1 = (e₀.run x).1 := by
  cases h with
  | ok h₀ h₁ => rw [h₀, h₁]
  | error h₀ h₁ => rw [h₀, h₁]

/-- Where the facts are known and the notes `dropped` were dropped, the action gives the same from
both emitters, and then the notes `dropped'` were dropped. -/
def InStep (S : Setting) (facts : Facts) (dropped dropped' : List String) {α : Type}
    (R : α → Facts → Prop) (x : Emit α) : Prop :=
  ∀ ⦃e₀ e₁ : Emitter⦄, S.At facts dropped e₀ e₁ → S.Outcome dropped' R x e₀ e₁

namespace InStep

open Emitter

variable {S : Setting} {facts : Facts} {dropped dropped' : List String} {α β : Type}
variable {R : α → Facts → Prop} {x : Emit α}

lemma pure {a : α} (h : R a facts) : InStep S facts dropped dropped R (pure a) :=
  fun _ _ he => .ok rfl rfl he h

lemma throw (error : EmitError) : InStep S facts dropped dropped' R (throw error) :=
  fun _ _ _ => .error rfl rfl

variable {f : Context → Context} {R' : β → Facts → Prop} {g : Facts → Facts}

lemma bind {dropped'' : List String} {f : α → Emit β} (hx : InStep S facts dropped dropped' R x)
    (hf : ∀ a known, R a known → InStep S known dropped' dropped'' R' (f a)) :
    InStep S facts dropped dropped'' R' (x >>= f) := by
  intro e₀ e₁ he
  cases hx he with
  | error h₀ h₁ => exact .error (run_bind_error h₀) (run_bind_error h₁)
  | ok h₀ h₁ hat hR =>
    cases hf _ _ hR hat with
    | error h₀' h₁' => exact .error ((run_bind_ok h₀).trans h₀') ((run_bind_ok h₁).trans h₁')
    | ok h₀' h₁' hat' hR' =>
      exact .ok ((run_bind_ok h₀).trans h₀') ((run_bind_ok h₁).trans h₁') hat' hR'

lemma imp {R' : α → Facts → Prop} (hx : InStep S facts dropped dropped' R x)
    (h : ∀ a known, R a known → R' a known) : InStep S facts dropped dropped' R' x := by
  intro e₀ e₁ he
  cases hx he with
  | error h₀ h₁ => exact .error h₀ h₁
  | ok h₀ h₁ hat hR => exact .ok h₀ h₁ hat (h _ _ hR)

lemma drop {others : List String} (hx : InStep S facts dropped dropped' R x)
    (h : ∀ v ∈ dropped', v ∈ others) : InStep S facts dropped others R x := by
  intro e₀ e₁ he
  cases hx he with
  | error h₀ h₁ => exact .error h₀ h₁
  | ok h₀ h₁ hat hR =>
    exact .ok h₀ h₁ ⟨hat.near, hat.facts, fun v hv hkept => hat.noted v hv (mt (h v) hkept)⟩ hR

lemma dropNothing (hx : InStep S facts dropped dropped' R x) :
    InStep S facts dropped (dropped' ++ []) R x := by
  rwa [List.append_nil]

lemma context {f : Context → Emit α}
    (hf : ∀ {c₀ c₁ : Context}, c₁.blind = c₀.blind → c₀.toFacts = facts →
      facts.Near S.leaked S.types c₁.toFacts → f c₁ = f c₀)
    (h : ∀ c : Context, c.toFacts = facts → (∀ v ∈ S.noted, v ∉ dropped → v ∈ c.mutVars) →
      InStep S facts dropped dropped' R (f c)) :
    InStep S facts dropped dropped' R (context >>= f) := by
  intro e₀ e₁ he
  have hsame := hf he.near.blind he.facts (he.facts ▸ he.near.facts)
  cases h e₀.ctx he.facts he.noted he with
  | error h₀ h₁ => exact .error h₀ (run_context_bind.trans (hsame ▸ h₁))
  | ok h₀ h₁ hat hR => exact .ok h₀ (run_context_bind.trans (hsame ▸ h₁)) hat hR

/-- The context is read without its sets that only ever grow. -/
lemma read {f : Context → Emit α} (hf : (fun c => f c.blind) = f)
    (h : ∀ c : Context, c.toFacts = facts → (∀ v ∈ S.noted, v ∉ dropped → v ∈ c.mutVars) →
      InStep S facts dropped dropped' R (f c)) :
    InStep S facts dropped dropped' R (Emit.context >>= f) :=
  .context (fun hblind _ _ => by rw [← hf]; exact congrArg f hblind) h

lemma changed {R : Unit → Facts → Prop}
    (hf : ∀ {c₀ c₁ : Context}, c₁.blind = c₀.blind → facts.Near S.leaked S.types c₁.toFacts →
      c₀.toFacts = facts → (f c₁).blind = (f c₀).blind ∧
        (f c₀).toFacts.Near S.leaked S.types (f c₁).toFacts ∧ R () (f c₀).toFacts)
    (hnoted : ∀ (c : Context), ∀ v ∈ S.noted, (v ∉ dropped → v ∈ c.mutVars) → v ∉ dropped' →
      v ∈ (f c).mutVars) : InStep S facts dropped dropped' R (change f) := by
  intro e₀ e₁ he
  obtain ⟨hblind, hnear, hR⟩ := hf he.near.blind (he.facts ▸ he.near.facts) he.facts
  exact .ok rfl rfl ⟨⟨he.near.resolver, hblind, hnear⟩, rfl,
    fun v hv => hnoted e₀.ctx v hv (he.noted v hv)⟩ hR

lemma change (hf : ∀ c, (f c).toFacts = c.toFacts ∧ (f c.blind).blind = (f c).blind ∧
      (f c).mutVars = c.mutVars) :
    InStep S facts dropped dropped (fun _ k => k = facts) (change f) := by
  refine .changed (fun {c₀ c₁} hblind hnear hc => ⟨?_, ?_, (hf c₀).1.trans hc⟩)
    fun c v _ hv hkept => ?_
  · rw [← (hf c₁).2.1, hblind, (hf c₀).2.1]
  · rw [(hf c₀).1, (hf c₁).1, hc]
    exact hnear
  · rw [(hf c).2.2]
    exact hv hkept

lemma changing {g : Unit → Emit α} (hg : InStep S facts dropped dropped' R (g ()))
    (hf : ∀ c, (f c).toFacts = c.toFacts ∧ (f c.blind).blind = (f c).blind ∧
      (f c).mutVars = c.mutVars := by exact fun _ => ⟨rfl, rfl, rfl⟩) :
    InStep S facts dropped dropped' R (Emit.change f >>= g) :=
  (change hf).bind fun _ _ h => h ▸ hg

lemma learn (hg : ∀ {f₁ : Facts}, facts.Near S.leaked S.types f₁ →
      (g facts).Near S.leaked S.types (g f₁)) :
    InStep S facts dropped dropped (fun _ known => known = g facts) (learn g) := by
  refine .changed (fun {c₀ c₁} hblind hnear hc => ⟨?_, hc ▸ hg hnear, congrArg g hc⟩)
    fun _ _ _ hv hkept => hv hkept
  have hknown := (hg hnear).blind
  rw [← hc] at hknown
  calc ({ c₁ with toFacts := g c₁.toFacts } : Context).blind
    _ = { c₁.blind with toFacts := (g c₁.toFacts).blind } := rfl
    _ = { c₀.blind with toFacts := (g c₀.toFacts).blind } := by rw [hblind, hknown]
    _ = ({ c₀ with toFacts := g c₀.toFacts } : Context).blind := rfl

lemma learning {k : Unit → Emit α}
    (hg : ∀ {f₁ : Facts}, facts.Near S.leaked S.types f₁ → (g facts).Near S.leaked S.types (g f₁))
    (hk : InStep S (g facts) dropped dropped' R (k ())) :
    InStep S facts dropped dropped' R (Emit.learn g >>= k) :=
  (learn hg).bind fun _ _ h => h ▸ hk

/-- A light action does not see the difference between near emitters. -/
lemma of_light {looks : Bool} {Q : α → Prop} (hx : Plain ⟨Light, looks⟩ .free Q x) :
    InStep S facts dropped dropped (fun a known => Q a ∧ known = facts) x := by
  induction hx with
  | pure ha => exact .pure ⟨ha, rfl⟩
  | throw _ => exact .throw _
  | bind _ _ ihx ihf =>
    refine ihx.bind ?_
    rintro a _ ⟨ha, rfl⟩
    exact ihf a ha
  | known _ hknown ih =>
    intro e₀ e₁ he
    cases ih he with
    | error h₀ h₁ => exact .error h₀ h₁
    | ok h₀ h₁ hat hR => exact .ok h₀ h₁ hat ⟨hknown _ _ _ h₀ hR.1, hR.2⟩
  | read hbare _ ih =>
    refine .read (funext fun c => ?_) fun c _ _ => ih c c.within_free
    exact (congrFun hbare c.blind).symm.trans (congrFun hbare c)
  | look _ hblind _ ih => exact .read (funext hblind) fun c _ _ => ih c c.within_free
  | context h | asking h => cases h
  | nativeMethod? obj method =>
    intro e₀ e₁ he
    have hmethod := he.near.facts.nativeMethod? obj method
    have hrun : e₀.run (nativeMethod? obj method) =
        (.ok (e₀.ctx.toFacts.nativeMethod? obj method), e₀) := rfl
    refine .ok hrun ?_ he ⟨(Acts.nativeMethod? (C := .light) obj method).result hrun, rfl⟩
    rw [← hmethod]
    rfl
  | change hf =>
    refine .changed (fun {c₀ c₁} hblind hnear hc => ⟨?_, ?_, trivial, (hf.toFacts c₀).trans hc⟩)
      fun c v _ hv hkept => hf.grows c v (hv hkept)
    · rw [← hf.blind c₁, hblind, hf.blind c₀]
    · rw [hf.toFacts, hf.toFacts, hc]
      exact hnear
  | @resolving _ _ r hr =>
    intro e₀ e₁ he
    have hsame := hr.run_congr he.near.resolver
    have hafter : (r.run e₀.resolver).2.Same (r.run e₁.resolver).2 :=
      (hr.run_same e₀.resolver.within_free).symm.trans
        (he.near.resolver.trans (hr.run_same e₁.resolver.within_free))
    have hrun := Emitter.run_resolving e₁ r
    rw [hsame] at hrun
    have hrun₀ := Emitter.run_resolving e₀ r
    exact .ok hrun₀ hrun ⟨⟨hafter, he.near.blind, he.near.facts⟩, he.facts, he.noted⟩
      ⟨(Acts.resolving (C := .light) hr).result hrun₀, rfl⟩

lemma lightly {Q : α → Prop} {f : α → Emit β} (hx : Plain .light .free Q x)
    (hf : ∀ a, InStep S facts dropped dropped' R' (f a)) :
    InStep S facts dropped dropped' R' (x >>= f) :=
  (of_light hx).bind fun a _ h => h.2 ▸ hf a

/-! ## Wrappers -/

lemma indented (hx : InStep S facts dropped dropped' R x) :
    InStep S facts dropped dropped' R (indented x) :=
  .changing <| hx.bind fun _ _ h => .changing (.pure h)

lemma keepingTail (hx : InStep S facts dropped dropped' R x) :
    InStep S facts dropped dropped' R (keepingTail x) :=
  .read rfl fun _ _ _ => hx.bind fun _ _ h => .changing (.pure h)

lemma withUnwrapped (vars : List String) (hx : InStep S facts dropped dropped' R x) :
    InStep S facts dropped dropped' R (withUnwrapped vars x) :=
  .changing <| hx.bind fun _ _ h => .changing (.pure h)

lemma of_run {noted : List String} {e e' : Emitter} {a : α}
    (hx : InStep { noted } e.ctx.toFacts dropped dropped' R x) (he : e.HasNoted noted dropped)
    (h : e.run x = (.ok a, e')) : R a e'.ctx.toFacts := by
  have hfacts : e.ctx.toFacts.Near [] (fun _ => True) e.ctx.toFacts :=
    ⟨rfl, fun v => (or_iff_left List.not_mem_nil).symm, fun _ _ => .rfl⟩
  cases hx ⟨⟨.refl _, rfl, hfacts⟩, rfl, he⟩ with
  | error h₀ _ => cases h.symm.trans h₀
  | ok h₀ _ hat hR =>
    cases h.symm.trans h₀
    rw [hat.facts]
    exact hR

end InStep

end Oxidize
