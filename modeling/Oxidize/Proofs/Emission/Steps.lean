import Oxidize.Emit.Mapped
import Oxidize.Proofs.Package.Search

/-!
# The steps that emission is built of

An action of the emitter asks the registry, uses the resolver, reads the context and changes it, and
it does nothing else. `Query`, `Asks` and `Acts` say so for look-ups, for computations of the
resolver and for emission. They also follow the terms of an action: the names of an import table
come from crates that are allowed, only such crates are named in a look-up, only modules that are
allowed are looked for, and the action ends with an allowed error only. What holds of every action
is then shown once, by induction on how it is built (`Acts.run_spec`).
-/

namespace Oxidize

variable {Q : α → Prop}

/-! ## Values of the form that their use needs

The fields of a mapping or a package may hold any values. They are usable if they have the forms
that writing a module needs; those of the built-in mappings have them. -/

section Usable

open Library

def Value.isText : Value → Bool
  | .str _ => true
  | _ => false

/-- Is the value gone through part by part, and is each part a text? -/
def Value.holdsTexts (v : Value) : Bool :=
  v.parts?.any fun parts => parts.all Value.isText

def Value.isKey (v : Value) : Bool :=
  v.items?.isNone && v.entries?.isNone

/-- Do the fields of the mapping have the forms that writing a call needs? -/
def Mapping.isUsable (m : Mapping) : Bool :=
  m.template.isText && m.imports.holdsTexts &&
    (!m.paramTypes.isSet || (m.paramTypes.entries?.isNone && m.paramTypes.holdsTexts)) &&
    (!m.returns.isSet || m.returns.isText)

/-- Do the fields of the package have the forms that writing a module needs? -/
def Package.isUsable (p : Package) : Bool :=
  p.name.isKey && p.crate.isText && p.functions.values.all Mapping.isUsable &&
    p.methods.values.all Mapping.isUsable

def IR.Ty.pointsToBuiltin : IR.Ty → Bool
  | .generic outer (.prim _ :: _) =>
    ["Data", "Arc", "Box", "Rc", "RefCell"].contains (Context.lastPart outer)
  | _ => false

namespace Value

variable {v : Value}

lemma exists_of_isText (h : v.isText = true) : ∃ text, v = .str text := by
  cases v with
  | str text => exact ⟨text, rfl⟩
  | _ => cases h

lemma exists_of_holdsTexts (h : v.holdsTexts = true) :
    ∃ parts, v.parts? = some parts ∧ parts.all Value.isText = true := by
  unfold holdsTexts at h
  rw [Option.any_eq_true] at h
  exact h

lemma exists_of_isKey (h : v.isKey = true) : ∃ text, v.keyText = .ok text := by
  cases v with
  | list _ | table _ => cases h
  | _ => exact ⟨_, rfl⟩

end Value

namespace Mapping

variable {m : Mapping} (h : m.isUsable = true)

include h

lemma exists_template : ∃ text, m.template = .str text := by
  simp only [isUsable, Bool.and_eq_true] at h
  exact Value.exists_of_isText h.1.1.1

lemma exists_imports : ∃ parts, m.imports.parts? = some parts ∧ parts.all Value.isText = true := by
  simp only [isUsable, Bool.and_eq_true] at h
  exact Value.exists_of_holdsTexts h.1.1.2

lemma exists_paramTypes (hset : m.paramTypes.isSet = true) : m.paramTypes.entries?.isNone = true ∧
      ∃ parts, m.paramTypes.parts? = some parts ∧ parts.all Value.isText = true := by
  simp only [isUsable, hset, Bool.and_eq_true, Bool.not_true, Bool.false_or] at h
  exact ⟨h.1.2.1, Value.exists_of_holdsTexts h.1.2.2⟩

lemma exists_returns (hset : m.returns.isSet = true) : ∃ text, m.returns = .str text := by
  simp only [isUsable, hset, Bool.and_eq_true, Bool.not_true, Bool.false_or] at h
  exact Value.exists_of_isText h.2

end Mapping

namespace Package

variable {p : Package} (h : p.isUsable = true)

include h

lemma isKey_name : p.name.isKey = true := by
  simp only [isUsable, Bool.and_eq_true] at h
  exact h.1.1.1

lemma exists_crate : ∃ text, p.crate = .str text := by
  simp only [isUsable, Bool.and_eq_true] at h
  exact Value.exists_of_isText h.1.1.2

end Package

lemma Library.isUsable_builtin : ((builtinTables ++ nativeMethodTables ++
      [calendar, calendarMethods, pathMethods]).all fun table =>
        table.values.all Mapping.isUsable) = true := by
  decide

/-- Values are of the form that their use needs, unless a fault of a value is allowed. -/
def Usable (E : EmitError → Prop) {α : Type} (isUsable : α → Bool) (a : α) : Prop :=
  (∃ fault, ¬ E (.value fault)) → isUsable a = true

variable {E : EmitError → Prop} {α β : Type}

lemma Usable.imp {isUsable : α → Bool} {isFit : β → Bool} {a : α} {b : β}
    (h : Usable E isUsable a) (hfit : isUsable a = true → isFit b = true) : Usable E isFit b :=
  fun hE => hfit (h hE)

/-! ## Mappings -/

def Found (E : EmitError → Prop) (found : Option Mapping) : Prop :=
  ∀ m ∈ found, Usable E Mapping.isUsable m

variable {table : Table Mapping} {key : String}

lemma found_of_table (h : table.values.all Mapping.isUsable = true) : Found E (table.get? key) := by
  intro m hm _
  exact List.all_eq_true.1 h m (Table.mem_values_of_get? hm)

lemma found_of_tables {tables : List (Table Mapping)}
    (h : ∀ table ∈ tables, table.values.all Mapping.isUsable = true) :
    Found E (tables.findSome? fun table => table.get? key) := by
  intro m hm
  obtain ⟨table, htable, hget⟩ := List.exists_of_findSome?_eq_some hm
  exact found_of_table (h table htable) m hget

lemma isUsable_table (h : table ∈ builtinTables ++ nativeMethodTables ++
      [calendar, calendarMethods, pathMethods]) : table.values.all Mapping.isUsable = true :=
  List.all_eq_true.1 isUsable_builtin table h

lemma found_builtin? (key : String) : Found E (builtin? key) :=
  found_of_tables fun _ h => isUsable_table (by simp [h])

lemma found_nativeMethod? (type method : String) : Found E (nativeMethod? type method) :=
  found_of_tables fun _ h => isUsable_table (by simp [h])

lemma found_calendar? (key : String) : Found E (calendar? key) :=
  found_of_table (isUsable_table (by simp))

lemma found_calendarMethod? (key : String) : Found E (calendarMethod? key) :=
  found_of_table (isUsable_table (by simp))

lemma found_pathMethods (key : String) : Found E (pathMethods.get? key) :=
  found_of_table (isUsable_table (by simp))

lemma found_of_package {p : Package} (hp : Usable E Package.isUsable p)
    (htable : table = p.functions ∨ table = p.methods) : Found E (table.get? key) := by
  intro m hm
  refine hp.imp fun husable => ?_
  simp only [Package.isUsable, Bool.and_eq_true, List.all_eq_true] at husable
  rcases htable with rfl | rfl
  · exact husable.1.2 m (Table.mem_values_of_get? hm)
  · exact husable.2 m (Table.mem_values_of_get? hm)

lemma Facts.found_nativeMethod? (facts : Facts) (obj : IR.Expr) (method : String) :
    Found E (facts.nativeMethod? obj method) := by
  unfold Facts.nativeMethod?
  split
  · split
    · exact Oxidize.found_nativeMethod? _ _
    · exact nofun
  · exact nofun

end Usable

/-! ## Steps and their terms -/

def Any {α : Type} (_ : α) : Prop :=
  True

structure Terms where
  crates : String → Prop
  modules : String → Prop
  errors : EmitError → Prop

abbrev Terms.free : Terms :=
  ⟨Any, Any, Any⟩

lemma Terms.free_elim {error : EmitError} {p : Prop} (h : ¬ Terms.free.errors error) : p :=
  absurd trivial h

lemma Usable.free {α : Type} {isUsable : α → Bool} {a : α} : Usable Terms.free.errors isUsable a :=
  fun ⟨_, h⟩ => Terms.free_elim h

/-- The crates that the names of an import table come from are allowed. -/
def AllFrom (K : String → Prop) (imports : Table String) : Prop :=
  ∀ crate ∈ imports.values, K crate

variable {K : String → Prop} {imports : Table String} {crate : String}

lemma AllFrom.get? (h : AllFrom K imports) {name : String} (hc : imports.get? name = some crate) :
    K crate :=
  h crate (Table.mem_values_of_get? hc)

lemma AllFrom.set (h : AllFrom K imports) (name : String) (hc : K crate) :
    AllFrom K (imports.set name crate) := by
  intro c hmem
  rcases Table.mem_values_set hmem with rfl | hmem
  · exact hc
  · exact h c hmem

/-- A name of a package is allowed if it can stand for a crate only that is; an empty one stands for
none. -/
def NameFrom (K : String → Prop) (name : Value) : Prop :=
  name.isSet = true → ∀ crate, name.keyText = .ok crate → K crate

/-- The imported names come from allowed crates, and neither they nor the types of the parameters
lead to an error that is not allowed. -/
structure Terms.Allows (T : Terms) (imported : Table String) (params : Table IR.Ty) : Prop where
  imports : AllFrom T.crates imported
  names : ¬ T.errors .emptyName → imported.get? "" = none
  pointers : ¬ T.errors .builtinAsClass → ∀ t ∈ params.values, t.pointsToBuiltin = false

abbrev Context.Within (T : Terms) (c : Context) : Prop :=
  T.Allows c.crateImports c.paramTypes

/-- A look-up that is one of the questions to the registry, with what is known of the answer. -/
inductive Query (T : Terms) : {α : Type} → (α → Prop) → Lookup α → Prop
  | pure {α : Type} {Q : α → Prop} {a : α} (ha : Q a) : Query T Q (pure a)
  | note (kind counter : String) (details : Table Value) :
    Query T Any (Registry.note kind counter details)
  | function? (key : String) : Query T (Found T.errors) (Registry.function? key)
  | method? (type method : String) {crate? : Option String} (hc : ∀ crate ∈ crate?, T.crates crate) :
    Query T (Found T.errors) (Registry.method? type method crate?)
  | type? (type : String) {crate : String} (hc : T.crates crate) :
    Query T Any (Registry.type? type (some crate))
  | variant? (type variant : String) {crate : String} (hc : T.crates crate) :
    Query T Any (Registry.variant? type variant (some crate))
  | package? {crate : String} (hc : T.crates crate) :
    Query T (fun found => ∀ p ∈ found, Usable T.errors Package.isUsable p) (Registry.package? crate)
  | importedCrate? {module : String} (hm : T.modules module) :
    Query T (fun found => ∀ name ∈ found,
      NameFrom T.crates name ∧ Usable T.errors Value.isKey name) (Registry.importedCrate? module)

/-- A computation of the resolver that is put together from its primitive steps. Only with `all`
does it ask what has to be in scope or change the imported names. -/
inductive Asks (all : Bool) (T : Terms) : {α : Type} → (α → Prop) → Resolve α → Prop
  | pure {α : Type} {Q : α → Prop} {a : α} (ha : Q a) : Asks all T Q (pure a)
  | bind {α β : Type} {P : α → Prop} {Q : β → Prop} {x : Resolve α} {f : α → Resolve β}
    (hx : Asks all T P x) (hf : ∀ a, P a → Asks all T Q (f a)) : Asks all T Q (x >>= f)
  | imported : Asks all T (AllFrom T.crates) Resolver.imported
  | classType? (name : String) : Asks all T Any (Resolver.classType? name)
  | neededUses (h : all = true) : Asks all T Any Resolver.neededUses
  | need (module : String) : Asks all T Any (Resolver.need module)
  | importName (h : all = true) (name : String) {crate : String} (hc : T.crates crate) :
    Asks all T Any (Resolver.importName name crate)
  | takeImports (h : all = true) {imports : Table String} (hi : AllFrom T.crates imports) :
    Asks all T Any (Resolver.takeImports imports)
  | lookup {α : Type} {Q : α → Prop} {l : Lookup α} (hl : Query T Q l) :
    Asks all T Q (Resolver.lookup l)

/-- A computation that does not ask what has to be in scope, and keeps the imported names. -/
abbrev Consults (T : Terms) {α : Type} (Q : α → Prop) (x : Resolve α) : Prop :=
  Asks false T Q x

/-- The context without what only ever grows. -/
def Context.blind (c : Context) : Context :=
  { c with hoisted := [], nativeTypes := [], libraryImports := [], extraImports := [] }

/-- The context without what only ever grows and the variables that are changed in place. -/
def Context.bare (c : Context) : Context :=
  { c.blind with mutVars := [] }

structure Manner where
  changes : (Context → Context) → Prop
  /-- May the action look at the variables that are changed in place? -/
  looks : Bool

/-- An action of emission that is put together from primitive steps. Only with `all` does it see
what only ever grows, other than in the methods of native types, and take the steps of the resolver
that a type does not need. What holds of every result of an action may be used. -/
inductive Acts (all : Bool) (C : Manner) (T : Terms) : {α : Type} → (α → Prop) → Emit α → Prop
  | pure {α : Type} {Q : α → Prop} {a : α} (ha : Q a) : Acts all C T Q (pure a)
  | throw {α : Type} {Q : α → Prop} {error : EmitError} (h : T.errors error) :
    Acts all C T Q (throw error)
  | bind {α β : Type} {P : α → Prop} {Q : β → Prop} {x : Emit α} {f : α → Emit β}
    (hx : Acts all C T P x) (hf : ∀ a, P a → Acts all C T Q (f a)) : Acts all C T Q (x >>= f)
  | known {α : Type} {P Q : α → Prop} {x : Emit α} (hx : Acts all C T P x)
    (h : ∀ e a e', Emitter.run e x = (.ok a, e') → P a → Q a) : Acts all C T Q x
  | read {α : Type} {Q : α → Prop} {f : Context → Emit α} (hbare : (fun c => f c.bare) = f)
    (hf : ∀ c, c.Within T → Acts all C T Q (f c)) : Acts all C T Q (Emit.context >>= f)
  | look {α : Type} {Q : α → Prop} {f : Context → Emit α} (hC : C.looks = true)
    (hblind : ∀ c, f c.blind = f c) (hf : ∀ c, c.Within T → Acts all C T Q (f c)) :
    Acts all C T Q (Emit.context >>= f)
  | context (h : all = true) : Acts all C T (Context.Within T) Emit.context
  | nativeMethod? (obj : IR.Expr) (method : String) :
    Acts all C T (Found T.errors) (Emit.nativeMethod? obj method)
  | change {f : Context → Context} (hf : C.changes f) : Acts all C T Any (Emit.change f)
  | resolving {α : Type} {Q : α → Prop} {r : Resolve α} (hr : Consults T Q r) :
    Acts all C T Q (Emit.resolving r)
  | asking {α : Type} {Q : α → Prop} {r : Resolve α} (h : all = true) (hr : Asks true T Q r) :
    Acts all C T Q (Emit.resolving r)

/-- An action that may take all steps, with changes of the context that `C` allows. -/
abbrev Built (C : (Context → Context) → Prop) (T : Terms) {α : Type} (Q : α → Prop) (x : Emit α) :
    Prop :=
  Acts true ⟨C, true⟩ T Q x

/-- Changes of the context that keep what is known about variables, the imported names and the
parameters. -/
structure Quiet (f : Context → Context) : Prop where
  toFacts : ∀ c, (f c).toFacts = c.toFacts
  crateImports : ∀ c, (f c).crateImports = c.crateImports
  paramTypes : ∀ c, (f c).paramTypes = c.paramTypes

def Keeps (T : Terms) (f : Context → Context) : Prop :=
  ∀ c, c.Within T → (f c).Within T

lemma Quiet.keeps {T : Terms} {f : Context → Context} (hf : Quiet f) : Keeps T f := by
  intro c hc
  unfold Context.Within
  rwa [hf.crateImports, hf.paramTypes]

section Laws

variable {all most : Bool} {C D : Manner} {T : Terms} {α β : Type} {P Q : α → Prop}

lemma Asks.done {a : α} : Asks all T Any (Pure.pure a) :=
  .pure trivial

lemma Asks.map {x : Resolve α} {f : α → β} (hx : Asks all T Q x) :
    Asks all T Any (do return f (← x)) :=
  hx.bind fun _ _ => done

namespace Acts

variable {x : Emit α}

lemma weaken (hx : Acts all C T Q x) (hall : all = true → most = true)
    (hchanges : ∀ f, C.changes f → D.changes f) (hlooks : C.looks = true → D.looks = true) :
    Acts most D T Q x := by
  induction hx with
  | pure ha => exact .pure ha
  | throw herror => exact .throw herror
  | bind _ _ ihx ihf => exact ihx.bind ihf
  | known _ hknown ih => exact ih.known hknown
  | read hbare _ ih => exact .read hbare ih
  | look hC hblind _ ih => exact .look (hlooks hC) hblind ih
  | context h => exact .context (hall h)
  | nativeMethod? obj method => exact .nativeMethod? obj method
  | change hf => exact .change (hchanges _ hf)
  | resolving hr => exact .resolving hr
  | asking h hr => exact .asking (hall h) hr

lemma done {a : α} : Acts all C T Any (Pure.pure a) :=
  .pure trivial

lemma map {f : α → β} (hx : Acts all C T Q x) : Acts all C T Any (do return f (← x)) :=
  hx.bind fun _ _ => done

lemma lookup {l : Lookup α} (hl : Query T Q l) : Acts all C T Q (Emit.lookup l) :=
  .resolving (.lookup hl)

lemma note (kind counter : String) (details : Table Value) :
    Acts all C T Any (Emit.note kind counter details) :=
  .lookup (.note kind counter details)

lemma changing {f : Context → Context} {g : Unit → Emit α} (hf : C.changes f)
    (hg : Acts all C T Q (g ())) : Acts all C T Q (Emit.change f >>= g) :=
  (Acts.change hf).bind fun _ _ => hg

lemma listMapM {l : List α} {f : α → Emit β} (h : ∀ a ∈ l, Acts all C T Any (f a)) :
    Acts all C T Any (l.mapM f) := by
  induction l with
  | nil => exact .done
  | cons a l ih =>
    rw [List.mapM_cons]
    refine (h a (by simp)).bind fun b _ => ?_
    refine (ih fun a ha => h a (by simp [ha])).bind fun bs _ => ?_
    exact .done

lemma listForM {l : List α} {f : α → Emit Unit} (h : ∀ a ∈ l, Acts all C T Any (f a)) :
    Acts all C T Any (l.forM f) := by
  induction l with
  | nil => exact .done
  | cons a l ih =>
    exact (h a (by simp)).bind fun _ _ => ih fun a ha => h a (by simp [ha])

end Acts

lemma Built.mono {C D : (Context → Context) → Prop} {x : Emit α} (hx : Built C T Q x)
    (h : ∀ f, C f → D f) : Built D T Q x :=
  hx.weaken (fun h => h) h fun h => h

lemma Built.keeps {x : Emit α} (hx : Built Quiet T Q x) : Built (Keeps T) T Q x :=
  hx.mono fun _ hf => hf.keeps

end Laws

/-! ## Running an action -/

namespace Emitter

variable {α β : Type} (e : Emitter)

lemma run_context : e.run Emit.context = (.ok e.ctx, e) :=
  rfl

lemma run_resolving (r : Resolve α) : e.run (Emit.resolving r) =
      (.ok (r.run e.resolver).1, { e with resolver := (r.run e.resolver).2 }) :=
  rfl

variable {e}

variable {f : α → Emit β} {x : Emit α} {e' : Emitter}

lemma run_bind_ok {a : α} (h : e.run x = (.ok a, e')) : e.run (x >>= f) = e'.run (f a) := by
  unfold run at h ⊢
  rw [ExceptT.run_bind, StateT.run_bind, h]
  rfl

lemma run_bind_error {error : EmitError} (h : e.run x = (.error error, e')) :
    e.run (x >>= f) = (.error error, e') := by
  unfold run at h ⊢
  rw [ExceptT.run_bind, StateT.run_bind, h]
  rfl

lemma run_context_bind {f : Context → Emit β} : e.run (Emit.context >>= f) = e.run (f e.ctx) :=
  rfl

lemma run_change_bind {f : Context → Context} {g : Unit → Emit β} :
    e.run (Emit.change f >>= g) = run { e with ctx := f e.ctx } (g ()) :=
  rfl

lemma exists_ok_of_isSome (h : (e.run x).1.toOption.isSome = true) : ∃ a, (e.run x).1 = .ok a := by
  cases hrun : (e.run x).1 with
  | ok a => exact ⟨a, rfl⟩
  | error error =>
    rw [hrun] at h
    cases h

/-- What two actions in a row give comes from what each of them gives. -/
lemma of_run_bind {b : β} {e'' : Emitter} (h : e.run (x >>= f) = (.ok b, e'')) :
    ∃ a e', e.run x = (.ok a, e') ∧ e'.run (f a) = (.ok b, e'') := by
  rcases hrun : e.run x with ⟨result, e'⟩
  cases result with
  | error error =>
    rw [run_bind_error hrun] at h
    cases h
  | ok a =>
    rw [run_bind_ok hrun] at h
    exact ⟨a, e', rfl, h⟩

end Emitter

/-! ## What every action keeps -/

/-- The packages of allowed modules are named by allowed crates, and no package leads to an error
that is not allowed. -/
structure Registry.Within (T : Terms) (g : Registry) : Prop where
  names : ∀ module, T.modules module → ∀ p ∈ g.packageOfModule? module, NameFrom T.crates p.name
  packages : ∀ p ∈ g.packages.values, Usable T.errors Package.isUsable p

structure Resolver.Within (T : Terms) (r : Resolver) : Prop where
  imports : AllFrom T.crates r.crateImports
  registry : r.registry.Within T

structure Emitter.Within (T : Terms) (e : Emitter) : Prop where
  ctx : e.ctx.Within T
  resolver : e.resolver.Within T

lemma Registry.Within.congr {T : Terms} {g h : Registry} (hg : g.Within T)
    (hpackages : h.packages = g.packages) : h.Within T := by
  refine ⟨?_, by rw [hpackages]; exact hg.packages⟩
  intro module hm p hp
  refine hg.names module hm p ?_
  unfold packageOfModule? at hp ⊢
  rwa [← hpackages]

section Spec

variable {all : Bool} {C : Manner} {T : Terms} {α : Type} {Q : α → Prop} {l : Lookup α}

/-- A look-up only adds to the log. -/
lemma Query.extends_run (hl : Query T Q l) (g : Registry) : g.Extends (l.run g).2 := by
  cases hl with
  | pure _ => exact .refl g
  | note kind counter details => exact .note ..
  | function? | method? | type? | variant? => exact .noted ..
  | package? => exact .refl g
  | importedCrate? => exact .refl g

lemma Query.run_fst (hl : Query T Q l) {g : Registry} (hg : g.Within T) : Q (l.run g).1 := by
  cases hl with
  | pure ha => exact ha
  | function? key =>
    rw [Registry.function?_run]
    intro m hm
    obtain ⟨p, hp, hget⟩ := List.exists_of_findSome?_eq_some hm
    exact found_of_package (hg.packages p hp) (.inl rfl) m hget
  | @method? type method crate? _ =>
    cases crate? with
    | none =>
      rw [Registry.method?_none_run]
      intro m hm
      obtain ⟨p, hp, hget⟩ := List.exists_of_findSome?_eq_some hm
      exact found_of_package (hg.packages p hp) (.inr rfl) m hget
    | some crate =>
      rw [Registry.method?_some_run]
      intro m hm
      obtain ⟨p, hp, hget⟩ := Option.bind_eq_some_iff.1 hm
      exact found_of_package (hg.packages p (Table.mem_values_of_get? hp)) (.inr rfl) m hget
  | package? => exact fun p hp => hg.packages p (Table.mem_values_of_get? hp)
  | importedCrate? hm =>
    intro name hname
    obtain ⟨p, hp, rfl⟩ := Option.map_eq_some_iff.1 hname
    exact ⟨hg.names _ hm p hp, (hg.packages p (List.mem_of_find?_eq_some hp)).imp Package.isKey_name⟩
  | _ => exact trivial

/-- A computation of the resolver keeps the packages and names allowed crates only. -/
lemma Asks.run_spec {x : Resolve α} (hx : Asks all T Q x) (r : Resolver)
    (hr : r.Within T) :
    Q (x.run r).1 ∧ (x.run r).2.Within T ∧ r.registry.Extends (x.run r).2.registry := by
  induction hx generalizing r with
  | pure ha => exact ⟨ha, hr, .refl _⟩
  | bind _ _ ihx ihf =>
    obtain ⟨ha, hr', hext⟩ := ihx r hr
    obtain ⟨hb, hr'', hext'⟩ := ihf _ ha _ hr'
    exact ⟨hb, hr'', hext.trans hext'⟩
  | imported => exact ⟨hr.imports, hr, .refl _⟩
  | classType? name => exact ⟨trivial, hr, .refl _⟩
  | neededUses _ => exact ⟨trivial, hr, .refl _⟩
  | need module => exact ⟨trivial, ⟨hr.imports, hr.registry⟩, .refl _⟩
  | importName _ name hc => exact ⟨trivial, ⟨hr.imports.set name hc, hr.registry⟩, .refl _⟩
  | takeImports _ hi => exact ⟨trivial, ⟨hi, hr.registry⟩, .refl _⟩
  | lookup hl =>
    have hext := hl.extends_run r.registry
    exact ⟨hl.run_fst hr.registry, ⟨hr.imports, hr.registry.congr hext.packages⟩, hext⟩

/-- An action keeps the packages, only adds to the log, and keeps the terms. -/
lemma Acts.run_spec {x : Emit α} (hx : Acts all C T Q x) (hC : ∀ f, C.changes f → Keeps T f)
    (e : Emitter) (he : e.Within T) :
    (∀ a, (e.run x).1 = .ok a → Q a) ∧ (∀ error, (e.run x).1 = .error error → T.errors error) ∧
      (e.run x).2.Within T ∧ e.resolver.registry.Extends (e.run x).2.resolver.registry := by
  induction hx generalizing e with
  | pure ha => exact ⟨fun a h => by cases h; exact ha, nofun, he, .refl _⟩
  | throw herror => exact ⟨nofun, fun _ h => by cases h; exact herror, he, .refl _⟩
  | @bind _ _ _ _ x f _ _ ihx ihf =>
    obtain ⟨hP, herrors, he', hext⟩ := ihx e he
    rcases hrun : e.run x with ⟨result, e'⟩
    rw [hrun] at hP herrors he' hext
    cases result with
    | error error =>
      rw [Emitter.run_bind_error hrun]
      exact ⟨nofun, fun _ h => by cases h; exact herrors error rfl, he', hext⟩
    | ok a =>
      rw [Emitter.run_bind_ok hrun]
      obtain ⟨hQ, herrors', he'', hext'⟩ := ihf a (hP a rfl) e' he'
      exact ⟨hQ, herrors', he'', hext.trans hext'⟩
  | known _ hknown ih =>
    obtain ⟨hP, hrest⟩ := ih e he
    exact ⟨fun a h => hknown e a _ (Prod.ext h rfl) (hP a h), hrest⟩
  | read _ _ ih | look _ _ _ ih => exact ih e.ctx he.ctx e he
  | context _ => exact ⟨fun a h => by cases h; exact he.ctx, nofun, he, .refl _⟩
  | nativeMethod? obj method =>
    refine ⟨fun a h => ?_, nofun, he, .refl _⟩
    cases h
    exact e.ctx.toFacts.found_nativeMethod? obj method
  | change hf => exact ⟨fun _ _ => trivial, nofun, ⟨hC _ hf _ he.ctx, he.resolver⟩, .refl _⟩
  | resolving hr | asking _ hr =>
    obtain ⟨hQ, hr', hext⟩ := hr.run_spec e.resolver he.resolver
    exact ⟨fun a h => by cases h; exact hQ, nofun, ⟨he.ctx, hr'⟩, hext⟩

lemma Context.within_free (c : Context) : c.Within .free :=
  ⟨fun _ _ => trivial, Terms.free_elim, Terms.free_elim⟩

lemma Registry.within_free (g : Registry) : g.Within .free :=
  ⟨fun _ _ _ _ _ _ _ => trivial, fun _ _ => .free⟩

lemma Resolver.within_free (r : Resolver) : r.Within .free :=
  ⟨fun _ _ => trivial, r.registry.within_free⟩

lemma Emitter.within_free (e : Emitter) : e.Within .free :=
  ⟨e.ctx.within_free, e.resolver.within_free⟩

lemma Keeps.free (f : Context → Context) : Keeps .free f :=
  fun c _ => (f c).within_free

end Spec

end Oxidize
