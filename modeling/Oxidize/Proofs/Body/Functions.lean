import Oxidize.Proofs.Body.Simulation

/-!
# Written functions hold their bodies

Before the body of a function is written, its statements are scanned for variables that have to be
mutable. The text of the function holds the code of its body, whose declarations are written as its
sites ask for, and near emitters write the same text, unless a variable that is declared in it
leaked (`Emit.writes_inStep`).
-/

namespace Oxidize

open IR (Ty Function)
open Change (noted)

namespace IR.Function

/-- The variables of a function that are written in another way if they count as hoisted. -/
def fresh (f : Function) (facts : Facts) : List String :=
  Code.blockFresh (Outline.block (facts.enter f.params f.body) [] f.body 0).codes

def annots (f : Function) : List Ty :=
  f.params.map (·.type) ++ blockAnnots f.body

/-- The declarations of a function, in the order in which they are written. -/
def sites (f : Function) (facts : Facts) : List Site :=
  Outline.blockSites (Lower.blockNames f.body) (some {}) (facts.enter f.params f.body) [] [] f.body 0

end IR.Function

namespace Emit

/-- The ways to write a function with its body. Of a constructor only the fields are written. -/
inductive Writes (f : Function) : Emit String → Prop
  | function : Writes f (function f)
  | method (style : MethodStyle) (hname : f.name ≠ "__init__") : Writes f (method f style)

variable {S : Setting} {facts : Facts} {dropped : List String}

lemma scanBlock_inStep {body : List IR.Stmt} (hnoted : S.noted = noted (blockChanges body)) :
    InStep S facts dropped [] (fun _ known => known = facts) (scanBlock body) := by
  intro e₀ e₁ he
  cases InStep.of_light (scanBlock_plain body) he with
  | error h₀ h₁ => exact .error h₀ h₁
  | ok h₀ h₁ hat hR =>
    refine .ok h₀ h₁ ⟨hat.near, hat.facts, fun v hv _ => ?_⟩ hR.2
    exact scanBlock_notes body h₀ v (.inl (hnoted ▸ hv))

lemma withOwnMutVars_inStep (dropped' : List String) {α : Type} {R : α → Facts → Prop}
    {x : Emit α} (hx : InStep S facts S.noted dropped' R x) :
    InStep S facts dropped S.noted R (withOwnMutVars x) := by
  unfold withOwnMutVars
  refine .read rfl fun before _ _ => ?_
  have hset (vars : NameSet) {facts : Facts} {dropped : List String} :
      InStep S facts dropped S.noted (fun _ known => known = facts)
        (change fun c => { c with mutVars := vars }) := by
    refine .changed (fun hblind hnear hc => ⟨?_, hc ▸ hnear, hc⟩) fun _ v hv _ h => absurd hv h
    exact (congrArg (fun c : Context => { c with mutVars := vars }) hblind :)
  refine (hset []).bind ?_
  rintro _ _ rfl
  refine hx.bind fun a known hR => (hset before.mutVars).bind ?_
  rintro _ _ rfl
  exact .pure hR

/-- The text of a function holds the code of its body, whose declarations are written as the sites
ask for. -/
lemma writes_inStep {f : Function} {x : Emit String} (hx : Writes f x)
    (hnoted : S.noted = noted (blockChanges f.body)) (hW : Named S.types f.annots)
    (htyped : ∀ type ∈ facts.typeEnv.values, S.types type)
    (hspared : Spared S.leaked (f.fresh facts)) : InStep S facts dropped S.noted (fun text _ =>
        ∃ (head : List String) (depth : Nat) (codes : List Code) (last : List String),
          text = Text.join "\n" (head ++ Code.blockLines depth codes ++ last) ∧
            List.Forall₂ (Site.WrittenAs S.noted) (f.sites facts) (Code.blockMarks codes)) x := by
  have hlines (inResult : Bool) (head last : List String) :
      InStep S facts [] ([] ++ Outline.blockDrops [] f.body) (fun text _ =>
        ∃ (head : List String) (depth : Nat) (codes : List Code) (last : List String),
          text = Text.join "\n" (head ++ Code.blockLines depth codes ++ last) ∧
            List.Forall₂ (Site.WrittenAs S.noted) (f.sites facts) (Code.blockMarks codes))
        (do
          let lines ← bodyLines (← functionBody f.params f.result inResult f.body)
          return Text.join "\n" (head ++ lines ++ last)) := by
    refine (functionBody_inStep f.result inResult hW htyped hspared).bind ?_
    rintro codes _ ⟨-, hsites⟩
    rw [bodyLines, bind_assoc]
    exact .read rfl fun c _ _ => .pure ⟨head, _, codes, last, rfl, hsites _ _⟩
  have hparams (adjust : IR.Param → String → String) :
      InStep S facts [] [] (fun _ known => known = facts)
        (f.params.mapM (param (IR.assignmentCounts f.body) adjust)) :=
    (InStep.of_light (Acts.listMapM (C := ⟨Light, true⟩) fun p _ =>
      param_plain _ adjust p rfl)).imp fun _ _ h => h.2
  cases hx with
  | function =>
    unfold function
    refine .lightly margin_plain fun outer => ?_
    refine .lightly (decorationLines_plain .free) fun decoration => ?_
    refine .lightly (attributeLines_plain _) fun attributes => ?_
    refine .lightly (runtimeLines_plain f) fun runtime => ?_
    refine .lightly (docLines_plain _) fun doc => ?_
    refine withOwnMutVars_inStep (Outline.blockDrops [] f.body) ((scanBlock_inStep hnoted).bind ?_)
    rintro _ _ rfl
    refine (hparams _).bind ?_
    rintro params _ rfl
    exact .lightly (resultText_plain _) fun result => hlines _ _ _
  | method style hname =>
    have hinit : ¬ (f.name == "__init__") = true := fun heq => hname (beq_iff_eq.1 heq)
    unfold method methodBody
    rw [if_neg hinit, if_neg hinit]
    refine .lightly margin_plain fun outer => ?_
    refine .lightly (decorationLines_plain .free) fun decoration => ?_
    refine .lightly (attributeLines_plain _) fun attributes => ?_
    refine .lightly (docLines_plain _) fun doc => ?_
    refine withOwnMutVars_inStep (Outline.blockDrops [] f.body) ((scanBlock_inStep hnoted).bind ?_)
    rintro _ _ rfl
    refine (hparams _).bind ?_
    rintro params _ rfl
    refine .lightly (methodResult_plain f style) fun result => ?_
    dsimp only
    rw [bind_assoc]
    exact hlines _ _ _

end Emit

end Oxidize
