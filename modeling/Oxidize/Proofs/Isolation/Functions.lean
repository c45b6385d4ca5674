import Oxidize.Proofs.Body.Functions
import Oxidize.Transpile

/-!
# Functions do not depend on each other

A function is written after the classes and after other functions of its module.
-/

namespace Oxidize

open IR

namespace Emit

open Emitter

/-! ## After the imports -/

/-- The context without what the head of a module brings. -/
def unopened (c : Context) : Context :=
  { c with
    classNames := [], resultFunctions := [], nativeImports := [], nativeTypes := []
    importAliases := [], crateImports := [], localImports := [], localModules := []
    crateName := none }

/-- Once the imports are processed, nothing is known about variables, and the imported native types
are in use. -/
structure Opened (c : Context) : Prop where
  start : unopened c = {}
  imported : ∀ name, c.nativeImports.has name = true → name ∈ c.nativeTypes

lemma Opened.of_eq {c d : Context} (h : (unopened d, d.nativeImports, d.nativeTypes) =
      (unopened c, c.nativeImports, c.nativeTypes)) (hc : Opened c) : Opened d := by
  obtain ⟨hstart, himported⟩ := Prod.mk.inj h
  obtain ⟨himports, htypes⟩ := Prod.mk.inj himported
  refine ⟨hstart.trans hc.start, ?_⟩
  rw [himports, htypes]
  exact hc.imported

/-- The action leads from a context with the property to another one. -/
def Preserves {α : Type} (P : Context → Prop) (x : Emit α) : Prop :=
  ∀ ⦃e : Emitter⦄ ⦃a : α⦄ ⦃e' : Emitter⦄, P e.ctx → e.run x = (.ok a, e') → P e'.ctx

section Preserves

variable {α β : Type} {P : Context → Prop}

namespace Preserves

lemma pure (a : α) : Preserves P (pure a : Emit α) := by
  intro e b e' he h
  cases h
  exact he

lemma bind {x : Emit α} {f : α → Emit β} (hx : Preserves P x) (hf : ∀ a, Preserves P (f a)) :
    Preserves P (x >>= f) := by
  intro e b e'' he h
  obtain ⟨a, e', hrun, h⟩ := of_run_bind h
  exact hf a (hx he hrun) h

lemma change {f : Context → Context} (hf : ∀ c, P c → P (f c)) : Preserves P (change f) := by
  intro e u e' he h
  cases h
  exact hf _ he

lemma resolving (r : Resolve α) : Preserves P (resolving r) := by
  intro e a e' he h
  cases h
  exact he

lemma orValueFault (x : Except ValueFault α) : Preserves P (orValueFault x) := by
  cases x with
  | ok a => exact .pure a
  | error fault => exact fun _ _ _ _ h => by cases h

lemma listForM {l : List α} {f : α → Emit Unit} (hf : ∀ a, Preserves P (f a)) :
    Preserves P (l.forM f) := by
  induction l with
  | nil => exact .pure ()
  | cons a l ih => exact (hf a).bind fun _ => ih

end Preserves

lemma noteClass_preserves (hP : ∀ c classNames, P c → P { c with classNames })
    (name imported : String) : Preserves P (noteClass name imported) := by
  unfold noteClass namesClass
  split
  · refine Preserves.bind (.pure _) fun isClass => ?_
    split
    · exact .change fun c => hP c _
    · exact .pure ()
  · intro e u e' _ h
    cases h

end Preserves

lemma noteAlias_opens (name : String) (alias? : Option String) :
    Preserves Opened (noteAlias name alias?) := by
  unfold noteAlias
  split
  · exact .change fun _ => .of_eq rfl
  · exact .pure ()

lemma noteClass_opens (name imported : String) : Preserves Opened (noteClass name imported) :=
  noteClass_preserves (fun _ _ => .of_eq rfl) name imported

lemma importNative_opens (module : String) (names : Table (Option String)) :
    Preserves Opened (importNative module names) := by
  unfold importNative
  refine Preserves.listForM fun (name, alias?) => ?_
  refine Preserves.bind ?_ fun _ => noteAlias_opens _ _
  intro e u e' he h
  cases h
  refine ⟨he.start, fun other hother => ?_⟩
  rw [NameSet.mem_add]
  by_cases heq : other = importedAs name alias?
  · exact .inl heq
  · right
    refine he.imported other ?_
    have hget := Table.get?_set_of_ne e.ctx.nativeImports module heq
    unfold Table.has at hother ⊢
    unfold Table.get? at hget
    rwa [hget] at hother

lemma importPackage_opens (module crate : String) (names : Table (Option String)) :
    Preserves Opened (importPackage module crate names) := by
  unfold importPackage
  split
  · refine Preserves.bind (.resolving (Resolver.lookup (Registry.note _ _ _))) fun _ => ?_
    refine Preserves.listForM fun (name, alias?) => ?_
    refine Preserves.bind (.change fun _ => .of_eq rfl) fun _ => ?_
    refine Preserves.bind (.resolving _) fun _ => ?_
    exact (noteAlias_opens _ _).bind fun _ => noteClass_opens _ _
  · exact .pure ()

lemma importLocal_opens (module : String) (names : Table (Option String)) :
    Preserves Opened (importLocal module names) := by
  unfold importLocal
  refine Preserves.bind (.change fun _ => .of_eq rfl) fun _ => ?_
  exact Preserves.listForM fun (name, alias?) => noteClass_opens _ _

lemma processImport_opens (i : IR.Import) : Preserves Opened (processImport i) := by
  unfold processImport
  dsimp only
  split
  · exact importNative_opens _ _
  refine Preserves.bind (.resolving _) fun found => ?_
  split
  · refine Preserves.bind (.orValueFault _) fun crate => ?_
    exact importPackage_opens _ _ _
  · intro e u e' he h
    rw [run_bind_ok (run_context e)] at h
    split at h
    · exact importLocal_opens _ _ he h
    · exact Preserves.pure () he h

lemma opening_opens (m : IR.Module) : Preserves Opened (opening m) := by
  unfold opening noteResults
  refine Preserves.bind (.change fun _ => .of_eq rfl) fun _ => ?_
  refine Preserves.bind (.change fun _ => .of_eq rfl) fun _ => ?_
  refine Preserves.bind (Preserves.listForM processImport_opens) fun _ => ?_
  intro e u e' he h
  rw [run_bind_ok (run_context e)] at h
  exact Preserves.resolving _ he h

lemma opened_start (resolver : Resolver) (localModules : List String)
    (crateName : Option String) : Opened (start resolver localModules crateName).ctx :=
  ⟨rfl, fun _ h => by cases h⟩

/-! ## Functions after other items -/

lemma Opened.ready {c : Context} (h : Opened c) : View.outside.ready c := by
  have hstart := h.start
  refine ⟨⟨⟨?_, ?_, ?_⟩, ?_, ?_, ?_⟩, ?_, ?_⟩
  · exact (congrArg Context.targetType hstart :)
  · exact (congrArg Context.storesResult hstart :)
  · exact (congrArg Context.inDirectReturn hstart :)
  · exact (congrArg Context.unwrapped hstart :)
  · exact (congrArg (fun d : Context => d.narrowed) hstart :)
  · exact (congrArg Context.inLastStmt hstart :)
  · exact (congrArg Context.inImpl hstart :)
  · exact (congrArg Context.currentClass hstart :)

/-- After other items, the emitter is near to what it was before them. -/
lemma Opened.near {e₀ e₁ : Emitter} (h₀ : Opened e₀.ctx) (h : e₀.Keeps .outside e₁) :
    e₀.Near e₁.ctx.hoisted
      (fun type => type ∈ e₁.ctx.nativeTypes → type ∈ e₀.ctx.nativeTypes) e₁ := by
  have htyped : e₀.ctx.typeEnv = [] := (congrArg (fun d : Context => d.typeEnv) h₀.start :)
  refine ⟨h.resolver, h.part, ?_, ?_, ?_⟩
  · exact (congrArg Context.toFacts h.part :)
  · exact fun v => ⟨.inr, fun hv => hv.elim (fun h' => h.hoisted h') id⟩
  · intro type hmeets
    refine ⟨fun hmem => ?_, fun hmem => h.nativeTypes hmem⟩
    rcases hmeets with hvalue | himported | hnoted
    · rw [htyped] at hvalue
      cases hvalue
    · exact h₀.imported type himported
    · exact hnoted hmem

end Emit

/-- A function is written after the classes of its module and after other functions as it is written
right after the imports, if none of the variables it declares was hoisted before and no type it
names came into use before. -/
theorem function_after_items_eq_first (resolver : Resolver) (localModules : List String)
    (crateName : Option String) (m : IR.Module) (fs : List Function) (f : Function)
    {e₀ e₁ e₂ : Emitter} {classes functions : List String}
    (hopening : (Emitter.start resolver localModules crateName).run (Emit.opening m) = (.ok (), e₀))
    (hclasses : e₀.run (m.classes.mapM Emit.classItem) = (.ok classes, e₁))
    (hfunctions : e₁.run (fs.mapM Emit.function) = (.ok functions, e₂))
    (hvars : ∀ v ∈ f.fresh e₀.ctx.toFacts, v ∉ e₂.ctx.hoisted)
    (htypes : ∀ type ∈ f.annots.filterMap Emit.typeName?,
      type ∈ e₂.ctx.nativeTypes → type ∈ e₀.ctx.nativeTypes) :
    (e₂.run (Emit.function f)).1 = (e₀.run (Emit.function f)).1 := by
  have hopened := Emit.opening_opens m (Emit.opened_start resolver localModules crateName) hopening
  have hitems : e₀.Keeps .outside e₂ := by
    have hfirst := Leaves.listMapM (fun c _ => (Emit.classItem_leaves c).leaves) hopened.ready hclasses
    refine Leaves.after ?_ hopened.ready hfirst hfunctions
    exact Leaves.listMapM fun g _ => (Emit.function_leaves g).outside.leaves
  have htyped : e₀.ctx.typeEnv = [] := (congrArg (fun d : Context => d.typeEnv) hopened.start :)
  let S : Setting :=
    { leaked := e₂.ctx.hoisted
      types := fun type => type ∈ e₂.ctx.nativeTypes → type ∈ e₀.ctx.nativeTypes
      noted := Change.noted (blockChanges f.body) }
  have hat : S.At e₀.ctx.toFacts S.noted e₀ e₂ :=
    ⟨hopened.near hitems, rfl, fun _ hv h => absurd hv h⟩
  have hannots : Named S.types f.annots :=
    fun annot hannot type htype => htypes type (List.mem_filterMap.2 ⟨annot, hannot, htype⟩)
  have hstep : InStep S e₀.ctx.toFacts S.noted S.noted _ (Emit.function f) :=
    Emit.writes_inStep .function rfl hannots (htyped ▸ nofun) hvars
  exact (hstep hat).result

/-- Both branches of a choice assign a variable, which is declared in front of the choice. -/
def hoistingFunction : IR.Function where
  name := "choose"
  params := [{ name := "flag", type := .prim .bool }]
  result := some (.prim .int)
  body :=
    [.ifStmt (.name "flag" none)
       [.assign "x" (.literal (.int 1) none) none true false none] []
       [.assign "x" (.literal (.int 2) none) none false false none] none,
     .ret (.name "x" none) none]

def declaringFunction (v : String) : IR.Function where
  name := "five"
  params := [{ name := "start", type := .cls "Meter" none }]
  result := some (.prim .int)
  body :=
    [.assign v (.literal (.int 5) none) none true false none, .ret (.name v none) none]

def hoistingModule (v : String) : IR.Module where
  name := "hoisting"
  classes := [{ name := "Meter", fields := [("value", .prim .int)] }]
  functions := [hoistingFunction, declaringFunction v]

def hoistingStart (v : String) : Emitter :=
  ((Emitter.start {} [] none).run (Emit.opening (hoistingModule v))).2

/-- What is known once the class and the first function are written. -/
def hoistingRest (v : String) : Emitter :=
  (((hoistingStart v).run ((hoistingModule v).classes.mapM Emit.classItem)).2.run
    ([hoistingFunction].mapM Emit.function)).2

/-- A variable of another name is declared as if its function stood first. -/
theorem function_after_items_declaringFunction :
    ((hoistingRest "y").run (Emit.function (declaringFunction "y"))).1 =
      ((hoistingStart "y").run (Emit.function (declaringFunction "y"))).1 := by
  obtain ⟨classes, hclasses⟩ := Emitter.exists_ok_of_isSome (e := hoistingStart "y")
    (x := (hoistingModule "y").classes.mapM Emit.classItem) (by decide +kernel)
  obtain ⟨functions, hfunctions⟩ := Emitter.exists_ok_of_isSome
    (e := ((hoistingStart "y").run ((hoistingModule "y").classes.mapM Emit.classItem)).2)
    (x := [hoistingFunction].mapM Emit.function) (by decide +kernel)
  have hopening : (Emitter.start {} [] none).run (Emit.opening (hoistingModule "y")) =
      (.ok (), hoistingStart "y") := Prod.ext rfl rfl
  have hrest : ((hoistingStart "y").run ((hoistingModule "y").classes.mapM Emit.classItem)).2.run
      ([hoistingFunction].mapM Emit.function) = (.ok functions, hoistingRest "y") :=
    Prod.ext hfunctions rfl
  exact function_after_items_eq_first {} [] none (hoistingModule "y") [hoistingFunction]
    (declaringFunction "y") hopening (Prod.ext hclasses rfl) hrest (by decide +kernel)
    (by decide +kernel)

/-- A variable of the same name is not declared at all, unless its function stands first. -/
theorem function_after_items_hoistingFunction :
    (transpile {} (hoistingModule "x")).1.toOption =
        some ("#[derive(Debug, Clone)]\npub struct Meter \x7b\n    pub value: i64,\n\x7d\n\n\n" ++
          "pub fn choose(flag: bool) -> i64 \x7b\n    let mut x;\n    if flag \x7b\n" ++
          "        x = 1;\n    \x7d else \x7b\n        x = 2;\n    \x7d\n    x\n\x7d\n\n" ++
          "pub fn five(start: Meter) -> i64 \x7b\n    x = 5;\n    x\n\x7d\n") ∧
      ((hoistingStart "x").run (Emit.function (declaringFunction "x"))).1.toOption =
        some "pub fn five(start: Meter) -> i64 \x7b\n    let x = 5;\n    x\n\x7d" := by
  decide +kernel

/-!
## Items give back what they took

While a function is written, the context holds its parameters, its result and what is known about
its variables. Afterwards every field that it set for itself has its old value, from whatever
context it was written, as long as no expression was being written there; and nothing is narrowed
any more.
-/

structure Context.Restored (before after : Context) : Prop where
  indent : after.indent = before.indent
  inImpl : after.inImpl = before.inImpl
  currentClass : after.currentClass = before.currentClass
  inResult : after.inResult = before.inResult
  inOption : after.inOption = before.inOption
  returnType : after.returnType = before.returnType
  paramTypes : after.paramTypes = before.paramTypes
  typeEnv : after.typeEnv = before.typeEnv
  optionVars : after.optionVars = before.optionVars
  readVars : after.readVars = before.readVars
  assignmentCounts : after.assignmentCounts = before.assignmentCounts
  mutVars : after.mutVars = before.mutVars
  targetType : after.targetType = before.targetType
  storesResult : after.storesResult = before.storesResult
  inDirectReturn : after.inDirectReturn = before.inDirectReturn

lemma Context.Restored.of_part {o : View.Outset} {before after : Context}
    (h : o.part after = o.part before) : before.Restored after where
  indent := (congrArg Context.indent h :)
  inImpl := (congrArg Context.inImpl h :)
  currentClass := (congrArg Context.currentClass h :)
  inResult := (congrArg Context.inResult h :)
  inOption := (congrArg Context.inOption h :)
  returnType := (congrArg Context.returnType h :)
  paramTypes := (congrArg Context.paramTypes h :)
  typeEnv := (congrArg (fun c : Context => c.typeEnv) h :)
  optionVars := (congrArg Context.optionVars h :)
  readVars := (congrArg (fun c : Context => c.readVars) h :)
  assignmentCounts := (congrArg (fun c : Context => c.assignmentCounts) h :)
  mutVars := (congrArg Context.mutVars h :)
  targetType := (congrArg Context.targetType h :)
  storesResult := (congrArg Context.storesResult h :)
  inDirectReturn := (congrArg Context.inDirectReturn h :)

namespace Emit

/-- No variable is narrowed, and no statement is the last one of a block. -/
def Cleared (c : Context) : Prop :=
  c.narrowed = [] ∧ c.inLastStmt = false

lemma functionBody_clears (params : List Param) (result : Option Ty) (inResult : Bool)
    (body : List Stmt) : Ends Cleared (functionBody params result inResult body) := by
  intro e codes e' h
  rw [← functionBody_ends h]
  exact ⟨rfl, rfl⟩

lemma withOwnMutVars_clears {α : Type} {body : Emit α} (hbody : Ends Cleared body) :
    Ends Cleared (withOwnMutVars body) := by
  unfold withOwnMutVars
  iterate 2 refine .of_bind fun _ => ?_
  refine hbody.bind fun h hcleared => ?_
  cases h
  exact hcleared

lemma function_clears (f : Function) : Ends Cleared (function f) := by
  unfold function
  iterate 5 refine .of_bind fun _ => ?_
  refine withOwnMutVars_clears ?_
  iterate 3 refine .of_bind fun _ => ?_
  refine (functionBody_clears _ _ _ _).bind fun h hcleared => ?_
  cases h
  exact hcleared

end Emit

/-- From every context in which no expression is being written, a function gives back each field
that it sets and leaves no variable narrowed, and so does a class that is not inside of another. -/
theorem item_restores_context {e : Emitter} (h : View.Idle e.ctx) :
    (∀ (f : IR.Function) (text : String) (e' : Emitter),
      e.run (Emit.function f) = (.ok text, e') →
        e.ctx.Restored e'.ctx ∧ e'.ctx.narrowed = [] ∧ e'.ctx.inLastStmt = false) ∧
    (e.ctx.inImpl = false → e.ctx.currentClass = none →
      ∀ (c : IR.Class) (text : String) (e' : Emitter),
        e.run (Emit.classItem c) = (.ok text, e') → e.ctx.Restored e'.ctx) := by
  constructor
  · intro f text e' hrun
    have hkept : e.Keeps (.item .idle) e' := (Emit.function_leaves f).leaves h hrun
    exact ⟨.of_part hkept.part, Emit.function_clears f hrun⟩
  · intro himpl hclass c text e' hrun
    have hkept : e.Keeps (.outside .idle) e' :=
      (Emit.classItem_leaves c).leaves ⟨h, himpl, hclass⟩ hrun
    exact .of_part hkept.part

/-- A function that declares, narrows, hoists and changes variables. -/
def takingFunction : IR.Function where
  name := "pick"
  params := [{ name := "x", type := .generic "Optional" [.prim .int] },
    { name := "flag", type := .prim .bool }]
  result := some (.generic "Optional" [.prim .int])
  body :=
    [.ifStmt (.binary .is (.name "x" none) (.literal .none none) none)
       [.ret (.literal .none none) none] [] [] none,
     .ifStmt (.name "flag" none)
       [.assign "y" (.literal (.int 1) none) none true false none] []
       [.assign "y" (.name "x" none) none false false none] none,
     .assign "items" (.list [.literal (.int 1) none] none) none true true none,
     .expr (.method (.name "items" none) "append" [.literal (.int 2) none] [] none) none,
     .ret (.name "y" none) none]

def takingClass : IR.Class where
  name := "Picker"
  fields := [("value", .prim .int)]
  methods := [{ takingFunction with isMethod := true }]

def midway : Emitter where
  ctx :=
    { indent := 2, inResult := true, returnType := some "i64", paramTypes := [("flag", .prim .int)]
      typeEnv := [("items", "Deque")], optionVars := ["items"], readVars := ["x"]
      assignmentCounts := [("x", 2)], mutVars := ["flag"], narrowed := ["flag"]
      unwrapped := ["x"], inLastStmt := true }

theorem item_restores_midway :
    (∃ text e', midway.run (Emit.function takingFunction) = (.ok text, e') ∧
      midway.ctx.Restored e'.ctx ∧ e'.ctx.narrowed = [] ∧ e'.ctx.inLastStmt = false) ∧
    ∃ text e', midway.run (Emit.classItem takingClass) = (.ok text, e') ∧
      midway.ctx.Restored e'.ctx := by
  have hidle : View.Idle midway.ctx := ⟨rfl, rfl, rfl⟩
  obtain ⟨text, hfunction⟩ := Emitter.exists_ok_of_isSome (e := midway)
    (x := Emit.function takingFunction) (by decide +kernel)
  obtain ⟨text', hclass⟩ := Emitter.exists_ok_of_isSome (e := midway)
    (x := Emit.classItem takingClass) (by decide +kernel)
  have hrun := Prod.ext (y := (_, (midway.run (Emit.function takingFunction)).2)) hfunction rfl
  have hrun' := Prod.ext (y := (_, (midway.run (Emit.classItem takingClass)).2)) hclass rfl
  exact ⟨⟨text, _, hrun, (item_restores_context hidle).1 _ _ _ hrun⟩,
    text', _, hrun', (item_restores_context hidle).2 rfl rfl _ _ _ hrun'⟩

end Oxidize
