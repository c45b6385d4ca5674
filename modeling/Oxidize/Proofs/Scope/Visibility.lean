import Oxidize.Proofs.Body.Simulation
import Oxidize.Transpile

/-!
# Which names are bound where they are declared and assigned

A variable is declared in front of a choice if two of its branches assign it and its type is not
known, which says little about whether it is bound already. A variable is assigned without being
declared if the program declares it anywhere before, which says little about where that declaration
is visible. For the body of every function it is shown exactly when no variable is declared twice
(`hoists_fresh_iff`) and when every assigned variable is bound (`updates_bound_iff`).
-/

namespace Oxidize

open IR (Expr Stmt Ty Param)
open Code (blockPlaces)
open List Emit

def Bound (counts : Binder → Bool) (scope : List Binding) (name : String) : Prop :=
  ∃ b ∈ scope, counts b.binder = true ∧ b.name = name

instance (counts : Binder → Bool) (scope : List Binding) (name : String) :
    Decidable (Bound counts scope name) :=
  inferInstanceAs (Decidable (∃ b ∈ scope, _))

def parameterBinds (params : List Param) : List Binding :=
  params.map fun p => ⟨.parameter, p.name⟩

namespace Place

/-- A variable that is declared in front of a choice is not bound there. -/
def Fresh (counts : Binder → Bool) : Place → Prop
  | .hoist name visible => ¬ Bound counts visible name
  | .update _ _ => True

/-- A variable that is assigned and not declared is bound there. -/
def Declared (counts : Binder → Bool) : Place → Prop
  | .hoist _ _ => True
  | .update name visible => Bound counts visible name

instance (counts : Binder → Bool) : (q : Place) → Decidable (q.Fresh counts)
  | .hoist name visible => inferInstanceAs (Decidable (¬ Bound counts visible name))
  | .update _ _ => inferInstanceAs (Decidable True)

instance (counts : Binder → Bool) : (q : Place) → Decidable (q.Declared counts)
  | .hoist _ _ => inferInstanceAs (Decidable True)
  | .update name visible => inferInstanceAs (Decidable (Bound counts visible name))

end Place

variable {counts : Binder → Bool}

/-! ## The places of one statement -/

lemma Emit.mem_hoistable {facts : Facts} {thenBody elseBody : List Stmt}
    {elifs : List IR.Elif} {v : String} : v ∈ hoistable facts thenBody elifs elseBody ↔
      v ∈ sharedVars thenBody elifs elseBody ∧ facts.typeEnv.has v = false := by
  unfold hoistable
  rw [NameSet.mem_sorted, NameSet.mem_ofList, mem_filter, Bool.not_eq_true']

lemma Emit.nodup_hoistable (facts : Facts) (thenBody : List Stmt)
    (elifs : List IR.Elif) (elseBody : List Stmt) :
    (hoistable facts thenBody elifs elseBody).Nodup :=
  NameSet.nodup_sorted (NameSet.nodup_ofList _)

lemma fresh_hoists_iff {vars : List String} (hvars : vars.Nodup) (scope : List Binding) :
    (∀ q ∈ blockPlaces scope (vars.map (.hoist · none)), q.Fresh counts) ↔
      ∀ v ∈ vars, ¬ Bound counts scope v := by
  induction vars generalizing scope with
  | nil => simp [blockPlaces]
  | cons v vars ih =>
    obtain ⟨hv, hvars⟩ := nodup_cons.1 hvars
    have hother : ∀ w ∈ vars,
        (¬ Bound counts (scope ++ [⟨.hoisting, v⟩]) w ↔ ¬ Bound counts scope w) := by
      intro w hw
      have hne : v ≠ w := fun heq => hv (heq ▸ hw)
      simp [Bound, hne]
    simp only [map_cons, blockPlaces, Code.places, Code.binds, cons_append,
      nil_append, forall_mem_cons, ih hvars]
    exact and_congr_right fun _ => forall₂_congr hother

namespace Point

/-- The variables that a statement declares in front of it are new exactly if it shares no bound
variable between branches unless its type is known. -/
lemma fresh_places_iff (p : Point) : (∀ q ∈ p.places, q.Fresh counts) ↔
      ∀ v ∈ p.shared, Bound counts p.scope v → p.facts.typeEnv.has v = true := by
  have hhoisted : (∀ q ∈ p.places, q.Fresh counts) ↔
      ∀ q ∈ blockPlaces p.scope (p.hoisted.map (.hoist · none)), q.Fresh counts := by
    unfold places
    rw [forall_mem_append]
    refine and_iff_left ?_
    simp [Place.Fresh]
  have hnodup : p.hoisted.Nodup := by
    unfold hoisted
    split
    · exact nodup_hoistable _ _ _ _
    · exact nodup_nil
  have hmem : ∀ v, v ∈ p.hoisted ↔ v ∈ p.shared ∧ p.facts.typeEnv.has v = false := by
    intro v
    unfold hoisted shared
    split
    · exact mem_hoistable
    · simp
  -- a shared variable is declared in front of the choice unless its type is known
  rw [hhoisted, fresh_hoists_iff hnodup]
  constructor
  · intro h v hv hbound
    cases htyped : p.facts.typeEnv.has v with
    | true => rfl
    | false => exact absurd hbound (h v ((hmem v).2 ⟨hv, htyped⟩))
  · intro h v hv hbound
    obtain ⟨hshared, htyped⟩ := (hmem v).1 hv
    rw [h v hshared hbound] at htyped
    cases htyped

/-- The variable that a statement takes as declared before is the only one that it assigns without
declaring it. -/
lemma declared_places_iff (p : Point) :
    (∀ q ∈ p.places, q.Declared counts) ↔ ∀ x ∈ p.updated?, Bound counts p.scope x := by
  -- declarations in front of a choice ask for nothing here
  have hhoists : ∀ (vars : List String) (scope : List Binding),
      ∀ q ∈ blockPlaces scope (vars.map (.hoist · none)), q.Declared counts := by
    intro vars
    induction vars with
    | nil => simp [blockPlaces]
    | cons v vars ih =>
      intro scope
      simp only [map_cons, blockPlaces, Code.places, cons_append, nil_append, forall_mem_cons]
      exact ⟨trivial, ih _⟩
  unfold places
  rw [forall_mem_append, and_iff_right (hhoists _ _)]
  simp [Place.Declared]

end Point

/-! ## The body of a function -/

lemma places_functionBody {params : List Param} {result : Option Ty} {inResult : Bool}
    {body : List Stmt} {e : Emitter} {codes : List Code}
    (h : (e.run (functionBody params result inResult body)).1 = .ok codes)
    (scope : List Binding) : blockPlaces scope codes =
      (Outline.blockPoints (e.ctx.toFacts.enter params body) scope [] body 0).flatMap
        Point.places := by
  rw [← Code.blockPlaces_erase, functionBody_outline h, Outline.places_block]

/-- In the written body of a function no variable that is declared in front of a choice is bound
there, exactly if each bound variable that branches of a choice share has a known type. -/
theorem hoists_fresh_iff (counts : Binder → Bool) (outer : List Binding) (params : List Param)
    (result : Option Ty) (inResult : Bool) (body : List Stmt) (e : Emitter) (codes : List Code)
    (h : (e.run (Emit.functionBody params result inResult body)).1 = .ok codes) :
    (∀ q ∈ blockPlaces (outer ++ parameterBinds params) codes, q.Fresh counts) ↔
      ∀ p ∈ Outline.blockPoints (e.ctx.toFacts.enter params body)
          (outer ++ parameterBinds params) [] body 0,
        ∀ v ∈ p.shared, Bound counts p.scope v → p.facts.typeEnv.has v = true := by
  rw [places_functionBody h]
  simp only [forall_mem_flatMap, Point.fresh_places_iff]

section Example

/-- Both branches of a choice assign a variable of a class, declared in front of it, and a new
variable. -/
def choosingFunction : IR.Function where
  name := "choose"
  params := [{ name := "flag", type := .prim .bool }, { name := "first", type := .cls "Meter" none }]
  result := some (.prim .int)
  body :=
    [.assign "best" (.name "first" none) (some (.cls "Meter" none)) true true none,
     .ifStmt (.name "flag" none) [.assign "best" (.name "first" none) none false false none,
        .assign "count" (.literal (.int 1) none) none true false none]
       []
       [.assign "best" (.name "first" none) none false false none,
        .assign "count" (.literal (.int 2) none) none false false none]
       none,
     .ret (.name "count" none) none]

lemma exists_codes_choosingFunction : ∃ codes, (Emitter.run {} (functionBody
    choosingFunction.params choosingFunction.result false choosingFunction.body)).1 = .ok codes :=
  Emitter.exists_ok_of_isSome (by decide +kernel)

/-- No variable is declared in front of the choice that is bound there. -/
theorem hoists_fresh_choosingFunction :
    ∃ codes, (Emitter.run {} (Emit.functionBody choosingFunction.params choosingFunction.result
        false choosingFunction.body)).1 = .ok codes ∧
      ∀ q ∈ blockPlaces ([] ++ parameterBinds choosingFunction.params) codes,
        q.Fresh fun _ => true := by
  obtain ⟨codes, hcodes⟩ := exists_codes_choosingFunction
  refine ⟨codes, hcodes, ?_⟩
  rw [hoists_fresh_iff _ _ _ _ _ _ _ _ hcodes]
  decide

/-- Both branches of a choice in a loop add to a counter that is declared in front of the loop. -/
def countingFunction : IR.Function where
  name := "total"
  params := [{ name := "n", type := .prim .int }, { name := "flag", type := .prim .bool }]
  result := some (.prim .int)
  body :=
    [.assign "count" (.literal (.int 0) none) (some (.prim .int)) true true none,
     .forLoop "i" (.call (.name "range" none) [.name "n" none] [] none) [.ifStmt (.name "flag" none)
         [.assign "count" (.binary .add (.name "count" none) (.literal (.int 1) none) none) none
           false false none]
         []
         [.assign "count" (.binary .add (.name "count" none) (.literal (.int 2) none) none) none
           false false none]
         none]
       none,
     .ret (.name "count" none) none]

/-- The counter is declared once more inside of the loop, so that the loop adds to another
variable than the one that is returned. -/
theorem hoists_bound_countingFunction :
    (transpile {} { name := "counting", functions := [countingFunction] }).1.toOption =
        some ("pub fn total(n: i64, flag: bool) -> i64 \x7b\n    let mut count: i64 = 0;\n" ++
          "    for _i in 0..n \x7b\n        let mut count;\n        if flag \x7b\n" ++
          "            count += 1;\n        \x7d else \x7b\n            count += 2;\n" ++
          "        \x7d\n    \x7d\n    count\n\x7d\n") ∧
      ((Emitter.run {} (functionBody countingFunction.params countingFunction.result false
          countingFunction.body)).1.toOption.map fun codes =>
        decide (∀ q ∈ blockPlaces (parameterBinds countingFunction.params) codes,
          q.Fresh (· == .declaration))) = some false := by
  decide +kernel

end Example

/-- In the written body of a function every variable that is assigned and not declared is bound
there, exactly if each assignment of the program that takes its variable as declared before stands
where it is visible. -/
theorem updates_bound_iff (counts : Binder → Bool) (outer : List Binding) (params : List Param)
    (result : Option Ty) (inResult : Bool) (body : List Stmt) (e : Emitter) (codes : List Code)
    (h : (e.run (Emit.functionBody params result inResult body)).1 = .ok codes) :
    (∀ q ∈ blockPlaces (outer ++ parameterBinds params) codes, q.Declared counts) ↔
      ∀ p ∈ Outline.blockPoints (e.ctx.toFacts.enter params body)
          (outer ++ parameterBinds params) [] body 0,
        ∀ x ∈ p.updated?, Bound counts p.scope x := by
  rw [places_functionBody h]
  simp only [forall_mem_flatMap, Point.declared_places_iff]

theorem updates_bound_choosingFunction :
    ∃ codes, (Emitter.run {} (Emit.functionBody choosingFunction.params choosingFunction.result
        false choosingFunction.body)).1 = .ok codes ∧
      ∀ q ∈ blockPlaces ([] ++ parameterBinds choosingFunction.params) codes,
        q.Declared fun _ => true := by
  obtain ⟨codes, hcodes⟩ := exists_codes_choosingFunction
  refine ⟨codes, hcodes, ?_⟩
  rw [updates_bound_iff _ _ _ _ _ _ _ _ hcodes]
  decide +kernel

/-- A source file whose function assigns a variable in a loop and again after it. -/
def loopingSource : SourceFile where
  text := "def f(n: int) -> int:\n    for i in range(n):\n        y = i\n    y = 5\n    return y\n"
  tree := .ok [ .functionDef false "f"
      (.mk [] [.mk "n" (some (.name "int" .load 1)) 1] none [] [] none [])
      [.forLoop (.name "i" .store 2) (.call (.name "range" .load 2) [.name "n" .load 2] [] 2)
         [.assign [.name "y" .store 3] (.name "i" .load 3) 3] [] 2,
       .assign [.name "y" .store 4] (.constant (.int 5) none 4) 4,
       .ret (some (.name "y" .load 5)) 5]
      [] (some (.name "int" .load 1)) 1]

/-- The second assignment is written outside of the loop that holds the only declaration. -/
theorem update_unbound_loopingSource :
    ((loopingSource.parse none).toOption.bind fun m => (transpile {} m).1.toOption) =
        some ("pub fn f(n: i64) -> i64 \x7b\n    for i in 0..n \x7b\n        let mut y = i;\n" ++
          "    \x7d\n    y = 5;\n    y\n\x7d\n") ∧
      ((loopingSource.parse none).toOption.map fun m =>
        m.functions.map fun f : IR.Function =>
        (Emitter.run {} (Emit.functionBody f.params f.result false f.body)).1.toOption.map
          fun codes => decide (∀ q ∈ blockPlaces (parameterBinds f.params) codes,
            q.Declared fun _ => true)) = some [some false] := by
  decide +kernel

end Oxidize
