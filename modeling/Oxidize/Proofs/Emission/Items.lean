import Oxidize.Emit.Module
import Oxidize.Proofs.Emission.Statements
import Oxidize.Proofs.Mutability.Searches

/-!
# Writing functions, classes and modules

Writing a module is built of steps that keep its terms (`module_built`), if the modules that it
imports may be looked for. It ends with an allowed error only, if its calls have their arguments, no
type of a signature is a choice between types, and no parameter points to a value of a built-in
type.
-/

namespace Oxidize

open IR List Framed

/-! ## Items that can be written -/

namespace IR

def Ty.isChoice : Ty → Bool
  | .union .. => true
  | _ => false

def Function.choosesType (f : Function) : Bool :=
  f.result.any Ty.isChoice || f.params.any fun p => p.type.isChoice

def Function.pointsToBuiltin (f : Function) : Bool :=
  f.params.any fun p => p.type.pointsToBuiltin

def Stmt.fieldValue? : Stmt → Option Expr
  | .attrAssign (.name owner _) _ value _ _ => if owner == "self" then some value else none
  | _ => none

/-- Does every call in the values of the fields have the arguments that it needs? -/
def fieldsSupplied (body : List Stmt) : Bool :=
  (body.filterMap Stmt.fieldValue?).all Expr.isSupplied

def Class.written (c : IR.Class) : List Function :=
  c.methods.filter fun f => f.name != "__enter__" && f.name != "__exit__"

end IR

section Ready

variable (T : Terms)

/-- The attributes of an item can be written, unless the fault of attributes is allowed. -/
def Undecorated (decoration : Option Decoration) : Prop :=
  (∃ fault, ¬ T.errors (.decoration fault)) → decoration = none

variable {crates modules : String → Prop}

lemma Undecorated.free {decoration : Option Decoration} :
    Undecorated ⟨crates, modules, Any⟩ decoration :=
  fun ⟨_, h⟩ => absurd trivial h

structure BodyReady (f : Function) : Prop where
  supplied : T.Supplies (IR.blockSupplied f.body)
  types : ¬ T.errors .choiceAsOption → f.choosesType = false
  pointers : ¬ T.errors .builtinAsClass → f.pointsToBuiltin = false

lemma BodyReady.free {f : Function} : BodyReady ⟨crates, modules, Any⟩ f :=
  ⟨fun hE => absurd trivial hE, fun hE => absurd trivial hE, fun hE => absurd trivial hE⟩

structure MethodReady (f : Function) : Prop where
  fields : f.name = "__init__" → T.Supplies (IR.fieldsSupplied f.body)
  body : f.name ≠ "__init__" → BodyReady T f
  undecorated : Undecorated T f.decoration

structure ClassReady (c : IR.Class) : Prop where
  methods : ∀ f ∈ c.written, MethodReady T f
  undecorated : Undecorated T c.decoration

lemma ClassReady.free {crates modules : String → Prop} {c : IR.Class} :
    ClassReady ⟨crates, modules, Any⟩ c :=
  ⟨fun _ _ => ⟨fun _ hE => absurd trivial hE, fun _ => .free, .free⟩, .free⟩

structure ModuleReady (m : IR.Module) : Prop where
  told : Emit.TellsErrors T
  modules : ∀ i ∈ m.imports, T.modules (Text.before i.module ".")
  imports : ¬ T.errors .emptyName → ∀ i ∈ m.imports, ∀ name ∈ i.names, name.1 ≠ ""
  functions : ∀ f ∈ m.functions, BodyReady T f ∧ Undecorated T f.decoration
  classes : ∀ c ∈ m.classes, ClassReady T c
  statements : ∀ s ∈ m.statements, Emit.isMainCheck s = false → Emit.runsAsync s = false →
    T.Supplies s.isSupplied

end Ready

namespace Emit

variable {C : Manner} {T : Terms}

/-! ## Functions -/

lemma margin_plain : Plain C T Any margin := by
  unfold margin
  exact .read rfl fun _ _ => .done

lemma decorationLines_plain {decoration : Option Decoration} (h : Undecorated T decoration) :
    Plain C T Any (decorationLines decoration) := by
  unfold decorationLines
  split
  · split
    · exact margin_plain.map
    · exact .throw (Classical.byContradiction fun hE => nomatch h ⟨_, hE⟩)
  · exact .done

lemma attributeLines_plain (attributes : List String) :
    Plain C T Any (attributeLines attributes) := by
  unfold attributeLines
  exact margin_plain.map

lemma docLines_plain (docstring : Option String) : Plain C T Any (docLines docstring) := by
  unfold docLines
  split
  · exact margin_plain.map
  · exact .done

lemma isOption_plain {t : Option Ty} (h : ¬ T.errors .choiceAsOption → t.any Ty.isChoice = false) :
    Plain C T Any (isOption t) := by
  unfold isOption
  split
  · exact .done
  · exact .throw (Classical.byContradiction fun hE => nomatch h hE)
  · exact .done

lemma param_plain (assigned : Table Nat) (adjust : Param → String → String) (p : Param)
    (hC : C.looks = true) : Plain C T Any (param assigned adjust p) := by
  unfold param
  refine (resolve_plain p.type).bind fun type _ => ?_
  exact Acts.look hC (fun _ => rfl) fun c _ => .done

lemma resultText_plain (t : Option Ty) : Plain C T Any (resultText t) := by
  unfold resultText
  split
  · exact (resolve_plain _).map
  · exact .done

/-! ## Bodies of functions -/

open Emitter

variable {o : View.Outset}

lemma withOwnMutVars_framed {α : Type} {body : Emit α} (hbody : Framed T (.body o) body) :
    Framed T (.item o) (withOwnMutVars body) where
  built := by
    refine (Acts.context rfl).bind fun c _ => .changing (fun _ h => h) ?_
    exact hbody.built.bind fun a _ => .changing (fun _ h => h) .done
  keeps e a e' hin he h := by
    unfold withOwnMutVars at h
    rw [run_context_bind, run_change_bind] at h
    obtain ⟨a', e₂, hrun, h⟩ := of_run_bind h
    cases h
    have hin₁ : Emitter.Within T { e with ctx := { e.ctx with mutVars := [] } } :=
      ⟨hin.ctx, hin.resolver⟩
    have hready : (View.body o).ready { e.ctx with mutVars := [] } :=
      (View.body o).ready_of_part (c := e.ctx) rfl he
    have hkept := hbody.keeps hin₁ hready hrun
    have hpart := congrArg (fun c : Context => { c with mutVars := e.ctx.mutVars }) hkept.part
    exact { hkept with part := hpart }

/-- The context with the fields that a function sets for itself as they were. -/
def givenBack (before c : Context) : Context := { c with
  inLastStmt := false, inResult := before.inResult, inOption := before.inOption
  returnType := before.returnType, paramTypes := before.paramTypes, typeEnv := before.typeEnv
  optionVars := before.optionVars, readVars := before.readVars
  assignmentCounts := before.assignmentCounts, narrowed := [] }

variable {body : List Stmt}

lemma functionBody_ends {params : List Param} {result : Option Ty} {inResult : Bool} {e e' : Emitter} {codes : List Code}
    (h : e.run (functionBody params result inResult body) = (.ok codes, e')) :
    givenBack e.ctx e'.ctx = e'.ctx := by
  unfold functionBody at h
  rw [run_context_bind] at h
  refine (?_ : Ends (fun c => givenBack e.ctx c = c) _) h
  iterate 8 refine .of_bind fun _ => ?_
  intro e₁ codes e₂ h
  cases h
  rfl

section Bodies

variable {f : Function}

lemma noteParams_framed (hf : BodyReady T f) : Framed T .entry (noteParams f.params) := by
  unfold noteParams
  refine bind (.change (fun c hc => ⟨hc.imports, hc.names, fun _ => nofun⟩) fun _ => rfl)
    fun _ => ?_
  refine .listForM fun p hp => bind (.change (fun c hc => ?_) fun _ => rfl) fun _ => ?_
  · refine ⟨hc.imports, hc.names, fun hE t ht => ?_⟩
    rcases Table.mem_values_set ht with rfl | ht
    · have hpointers := hf.pointers hE
      unfold Function.pointsToBuiltin at hpointers
      rw [any_eq_false] at hpointers
      exact Bool.eq_false_iff.2 (hpointers p hp)
    · exact hc.pointers hE t ht
  · exact .entry (learn_framed fun facts => facts.noteType_grows p.name p.type)

lemma noteOptionParams_framed {params : List Param}
    (h : ¬ T.errors .choiceAsOption → ∀ p ∈ params, p.type.isChoice = false) :
    Framed T .entry (noteOptionParams params) := by
  unfold noteOptionParams
  refine bind (.change (fun _ h => h) fun _ => rfl) fun _ => ?_
  refine .listForM fun p hp => ?_
  refine .step (isOption_plain fun hE => ?_) fun isOption => ?_
  · exact h hE p hp
  · exact .entry (noteOption_framed _ _)

lemma functionBody_entry (told : TellsErrors T) (hf : BodyReady T f) (inResult : Bool) :
    Framed T .entry (functionBody f.params f.result inResult f.body) := by
  have htypes (hE : ¬ T.errors .choiceAsOption) :
      f.result.any Ty.isChoice = false ∧ ∀ p ∈ f.params, p.type.isChoice = false := by
    have htypes := hf.types hE
    unfold Function.choosesType at htypes
    rw [Bool.or_eq_false_iff, any_eq_false] at htypes
    exact ⟨htypes.1, fun p hp => Bool.eq_false_iff.2 (htypes.2 p hp)⟩
  unfold functionBody
  refine .read fun before hbefore => ?_
  refine bind (.change (fun _ h => h) fun _ => rfl) fun _ => ?_
  refine .step (isOption_plain fun hE => (htypes hE).1) fun inOption => ?_
  refine .step (renderedType_plain f.result) fun returnType => ?_
  refine bind (.change (fun _ h => h) fun _ => rfl) fun _ => ?_
  refine (noteParams_framed hf).bind fun _ => ?_
  refine (noteOptionParams_framed fun hE => (htypes hE).2).bind fun _ => ?_
  refine bind (.change (fun _ h => h) fun _ => rfl) fun _ => ?_
  refine (entry (deeper_framed (keepingTail_framed
    (blockCode_framed told true (fun _ => rfl) f.body hf.supplied 0)))).bind fun codes => ?_
  -- After the body the parameters are those from before it again.
  exact bind (.change (fun c hc => ⟨hc.imports, hc.names, hbefore.pointers⟩) fun _ => rfl)
    fun _ => .pure _

lemma functionBody_framed (told : TellsErrors T) (hf : BodyReady T f) (inResult : Bool) :
    Framed T (.body o) (functionBody f.params f.result inResult f.body) where
  built := (functionBody_entry told hf inResult).built
  keeps e codes e' hin he h := by
    have hkept := (functionBody_entry told hf inResult).keeps hin (o.idle_of_ready he) h
    have hpart : (View.body o).part e'.ctx = (View.body o).part e.ctx := by
      rw [← functionBody_ends h]
      cases o with
      | idle => exact congrArg (givenBack e.ctx) hkept.part
      | rest =>
        have hunwrapped : e'.ctx.unwrapped = [] :=
          eq_nil_of_subset_nil (View.AtRest.unwrapped he ▸ hkept.unwrapped)
        calc View.body.part (givenBack e.ctx e'.ctx)
          _ = { givenBack e.ctx (View.entry.part e'.ctx) with unwrapped := e'.ctx.unwrapped } := rfl
          _ = { givenBack e.ctx (View.entry.part e.ctx) with unwrapped := [] } := by
            rw [hkept.part, hunwrapped]
          _ = View.body.part { e.ctx with unwrapped := [], narrowed := [], inLastStmt := false } :=
            rfl
          _ = View.body.part e.ctx := by rw [View.AtRest.eq he]
    exact { hkept with part := hpart }

lemma bodyLines_plain (codes : List Code) : Plain C T Any (bodyLines codes) := by
  unfold bodyLines
  exact .read rfl fun _ _ => .done

lemma runtimeLines_plain (f : Function) : Plain C T Any (runtimeLines f) := by
  unfold runtimeLines
  dsimp only
  split
  · refine margin_plain.bind fun outer _ => ?_
    exact .read rfl fun _ _ => .done
  · exact .done

lemma function_framed (told : TellsErrors T) (hf : BodyReady T f)
    (hdecoration : Undecorated T f.decoration) : Framed T (.item o) (function f) := by
  unfold function
  refine .step margin_plain fun outer => ?_
  refine .step (decorationLines_plain hdecoration) fun decoration => ?_
  refine .step (attributeLines_plain _) fun attributes => ?_
  refine .step (runtimeLines_plain f) fun runtime => ?_
  refine .step (docLines_plain _) fun doc => ?_
  refine withOwnMutVars_framed ?_
  refine (inBody (scanBlock_plain f.body)).bind fun _ => ?_
  refine .step (Acts.listMapM fun p _ => param_plain _ _ p rfl) fun params => ?_
  refine .step (resultText_plain _) fun result => ?_
  refine (functionBody_framed told hf _).bind fun codes => ?_
  exact (still (bodyLines_plain codes)).map

/-! ## Classes -/

lemma importedPath?_plain (name : String) : Plain C T Any (importedPath? name) := by
  unfold importedPath?
  refine .read rfl fun c hc => ?_
  split
  · rename_i crate hcrate
    have hK : T.crates crate := hc.imports.get? (Option.eq_some_of_filter_eq_some hcrate)
    refine (Acts.lookup (.type? _ hK)).bind fun path _ => ?_
    split <;> exact .done
  · exact .done

lemma servicePath?_plain (bases : List String) : Plain C T Any (servicePath? bases) := by
  induction bases with
  | nil =>
    rw [servicePath?]
    exact .done
  | cons base bases ih =>
    rw [servicePath?]
    refine (importedPath?_plain base).bind fun path _ => ?_
    split
    · split
      · exact .done
      · exact ih
    · exact ih

lemma ownResult_plain (f : Function) : Plain C T Any (ownResult f) := by
  unfold ownResult
  split
  · exact .done
  · exact resultText_plain _

lemma methodResult_plain (f : Function) (style : MethodStyle) :
    Plain C T Any (methodResult f style) := by
  unfold methodResult
  exact (ownResult_plain f).map

lemma constructedFields_plain (h : T.Supplies (fieldsSupplied body)) :
    Mild T (constructedFields body) := by
  fun_induction constructedFields body with
  | case1 => exact .done
  | case2 owner _ member value _ _ body howner ih =>
    simp only [fieldsSupplied, Stmt.fieldValue?, filterMap_cons, if_pos howner,
      all_cons, Terms.Supplies.and] at h
    refine (expr_plain value h.1).bind fun code _ => ?_
    refine margin_plain.bind fun outer _ => ?_
    exact (ih h.2).map
  | case3 owner _ member value _ _ body howner ih =>
    simp only [fieldsSupplied, Stmt.fieldValue?, filterMap_cons, if_neg howner] at h
    exact ih h
  | case4 s body hs ih =>
    refine ih (h.imp fun hbody => ?_)
    unfold fieldsSupplied at hbody ⊢
    rw [filterMap_cons] at hbody
    split at hbody
    · exact hbody
    · rw [all_cons, Bool.and_eq_true] at hbody
      exact hbody.2

lemma constructorBody_framed (h : T.Supplies (fieldsSupplied body)) :
    Framed T (.body o) (constructorBody body) := by
  unfold constructorBody
  refine indented_framed (View.body_indents o) ?_
  refine .step margin_plain fun outer => ?_
  refine bind (indented_framed (View.body_indents o) ?_) fun fields => .pure _
  exact inBody (constructedFields_plain h)

lemma methodBody_framed (told : TellsErrors T) (hf : MethodReady T f) (style : MethodStyle) :
    Framed T (.body o) (methodBody f style) := by
  unfold methodBody
  split
  · rename_i hinit
    exact constructorBody_framed (hf.fields (eq_of_beq hinit))
  · rename_i hinit
    have hname : f.name ≠ "__init__" := fun h => hinit (by rw [h]; rfl)
    refine (functionBody_framed told (hf.body hname) _).bind fun codes => ?_
    exact .still (bodyLines_plain codes)

lemma method_framed (told : TellsErrors T) (hf : MethodReady T f) (style : MethodStyle) :
    Framed T (.item o) (method f style) := by
  unfold method
  refine .step margin_plain fun outer => ?_
  refine .step (decorationLines_plain hf.undecorated) fun decoration => ?_
  refine .step (attributeLines_plain _) fun attributes => ?_
  refine .step (docLines_plain _) fun doc => ?_
  refine withOwnMutVars_framed ?_
  refine (inBody (scanBlock_plain _)).bind fun _ => ?_
  refine .step (Acts.listMapM fun p _ => param_plain _ _ p rfl) fun params => ?_
  refine .step (methodResult_plain f style) fun result => ?_
  exact (methodBody_framed told hf style).map

end Bodies

lemma fieldConstructor_plain (c : IR.Class) : Plain C T Any (fieldConstructor c) := by
  unfold fieldConstructor
  refine margin_plain.bind fun outer _ => ?_
  refine (Acts.listMapM fun field _ => ?_).map
  exact (resolve_plain _).map

lemma inClass_framed {α : Type} (name : String) {body : Emit α}
    (hbody : Framed T (.item o) body) : Framed T (.outside o) (inClass name body) := by
  have hinner : Framed T (.inside o) (indented do
      change fun c => { c with inImpl := true, currentClass := some name }
      body) := indented_framed (View.inside_indents o)
    (bind (.change (fun _ h => h) fun _ => rfl) fun _ => inside hbody)
  refine ⟨hinner.built.bind fun a _ => .changing (fun _ h => h) .done, ?_⟩
  intro e a e' hin he h
  obtain ⟨a', e₁, hrun, h⟩ := of_run_bind h
  have hkept := hinner.keeps hin he.1 hrun
  cases h
  have hoff : (View.inside o).part e.ctx = o.part e.ctx := by
    have hset (inImpl : Bool) (currentClass : Option String) (hi : e.ctx.inImpl = inImpl)
        (hc : e.ctx.currentClass = currentClass) :
        { o.part e.ctx with inImpl, currentClass } = o.part e.ctx := by
      subst hi hc
      rfl
    exact hset _ _ he.2.1 he.2.2
  exact { hkept with part := hkept.part.trans hoff }

lemma serviceName_plain (c : IR.Class) (methods : List Function) :
    Plain C T Any (serviceName c methods) := by
  unfold serviceName
  exact margin_plain.map

variable {c : IR.Class}

lemma serviceImpl_framed (told : TellsErrors T) (hc : ClassReady T c)
    (path : String) : Framed T (.outside o) (serviceImpl c path) := by
  unfold serviceImpl
  refine .step margin_plain fun outer => ?_
  refine bind (inClass_framed c.name ?_) fun lines => .pure _
  refine .step (serviceName_plain c _) fun name => ?_
  refine (listMapM fun f hf => ?_).map
  obtain ⟨hmem, hservice⟩ := mem_filter.1 hf
  refine method_framed told (hc.methods f (mem_filter.2 ⟨hmem, ?_⟩)) _
  have hname : ∀ name ∈ serviceMethods,
      (name != "__enter__" && name != "__exit__") = true := by decide
  exact hname f.name (contains_iff_mem.1 hservice)

lemma structLines_framed (c : IR.Class) : Framed T (.item o) (structLines c) := by
  unfold structLines
  refine .step margin_plain fun outer => ?_
  refine bind (indented_framed (View.item_indents o) ?_) fun fields => .pure _
  refine .step margin_plain fun inner => ?_
  refine .still (Acts.listMapM fun field _ => ?_)
  exact (resolve_plain _).map

lemma deriveLines_plain (c : IR.Class) : Plain C T Any (deriveLines c) := by
  unfold deriveLines
  exact margin_plain.map

lemma methodLines_framed (told : TellsErrors T) {methods : List Function}
    (hmethods : ∀ f ∈ methods, (f.name != "__enter__" && f.name != "__exit__") = true →
      MethodReady T f) : Framed T (.item o) (methodLines methods) := by
  unfold methodLines
  refine (listMapM fun f hf => ?_).map
  obtain ⟨hmem, hwritten⟩ := mem_filter.1 hf
  exact method_framed told (hmethods f hmem hwritten) _

lemma constructorLines_plain (c : IR.Class) : Plain C T Any (constructorLines c) := by
  unfold constructorLines
  split
  · exact (fieldConstructor_plain c).map
  · exact .done

lemma implLines_framed (told : TellsErrors T) (hc : ClassReady T c)
    (isService : Bool) : Framed T (.outside o) (implLines c isService) := by
  unfold implLines
  refine .step margin_plain fun outer => ?_
  dsimp only
  split
  · exact .pure _
  refine bind (inClass_framed c.name ?_) fun lines => .pure _
  refine .step (constructorLines_plain c) fun constructor => ?_
  refine (methodLines_framed told fun f hf hwritten => ?_).map
  exact hc.methods f (mem_filter.2 ⟨(mem_filter.1 hf).1, hwritten⟩)

lemma serviceLines_framed (told : TellsErrors T) (hc : ClassReady T c)
    (service : Option String) : Framed T (.outside o) (serviceLines c service) := by
  unfold serviceLines
  split
  · exact (serviceImpl_framed told hc _).map
  · exact .pure _

lemma dropLines_plain (c : IR.Class) : Plain C T Any (dropLines c) := by
  unfold dropLines
  refine margin_plain.bind fun outer _ => ?_
  split <;> exact .done

lemma classItem_framed (told : TellsErrors T) (hc : ClassReady T c) :
    Framed T (.outside o) (classItem c) := by
  unfold classItem
  refine .step (servicePath?_plain _) fun service => ?_
  refine .step (decorationLines_plain hc.undecorated) fun decoration => ?_
  refine .step (attributeLines_plain _) fun attributes => ?_
  refine .step (docLines_plain _) fun doc => ?_
  refine .step (deriveLines_plain c) fun derives => ?_
  refine (outside (structLines_framed c)).bind fun struct => ?_
  refine (implLines_framed told hc _).bind fun impl => ?_
  refine (serviceLines_framed told hc service).bind fun extension => ?_
  exact (still (dropLines_plain c)).map

/-- A function keeps all but what only ever grows. -/
lemma function_leaves (f : Function) : Framed .free (.item o) (function f) :=
  function_framed (fun _ _ => trivial) .free .free

/-- A class keeps all but what only ever grows. -/
lemma classItem_leaves (c : IR.Class) : Framed .free (.outside o) (classItem c) :=
  classItem_framed (fun _ _ => trivial) .free

/-! ## Modules -/

lemma noteAlias_built (name : String) (alias? : Option String) :
    Built (Keeps T) T Any (noteAlias name alias?) := by
  unfold noteAlias
  split
  · exact .change fun _ h => h
  · exact .done

lemma noteClass_built {name : String} (h : ¬ T.errors .emptyName → name ≠ "")
    (imported : String) : Built (Keeps T) T Any (noteClass name imported) := by
  unfold noteClass
  refine (namesClass_plain h).keeps.bind fun isClass _ => ?_
  split
  · exact .change fun _ h => h
  · exact .done

lemma importNative_built (module : String) (names : Table (Option String)) :
    Built (Keeps T) T Any (importNative module names) := by
  unfold importNative
  refine Acts.listForM fun name _ => ?_
  refine .changing (fun _ h => h) ?_
  exact noteAlias_built _ _

lemma importedAs_ne_empty {name : String} (h : name ≠ "") (alias? : Option String) :
    importedAs name alias? ≠ "" := by
  unfold importedAs
  cases hfilter : alias?.filter (· != "") with
  | none => exact h
  | some a =>
    have ha := (Option.filter_eq_some_iff.1 hfilter).2
    exact bne_iff_ne.1 ha

section Names

variable {names : Table (Option String)} (h : ¬ T.errors .emptyName → ∀ name ∈ names, name.1 ≠ "")

include h

lemma importPackage_built (module : String) {crate : String} (hc : T.crates crate) :
    Built (Keeps T) T Any (importPackage module crate names) := by
  unfold importPackage
  split
  · refine (Acts.note _ _ _).bind fun _ _ => ?_
    refine Acts.listForM fun name hname => ?_
    refine .changing (fun c hwithin => ⟨hwithin.imports.set _ hc, fun hE => ?_, hwithin.pointers⟩) ?_
    · have hne := importedAs_ne_empty (h hE name hname) name.2
      rw [Table.get?_set_of_ne _ _ hne.symm]
      exact hwithin.names hE
    refine (Acts.asking rfl (.importName rfl _ hc)).bind fun _ _ => ?_
    refine (noteAlias_built _ _).bind fun _ _ => ?_
    exact noteClass_built (fun hE => h hE name hname) _
  · exact .done

lemma importLocal_built (module : String) : Built (Keeps T) T Any (importLocal module names) := by
  unfold importLocal
  refine .changing (fun _ h => h) ?_
  exact Acts.listForM fun name hname => noteClass_built (fun hE => h hE name hname) _

end Names

lemma keyText_built {name : Value} (hname : NameFrom T.crates name)
    (hkey : Usable T.errors Value.isKey name) (hset : name.isSet = true) :
    Built (Keeps T) T T.crates (orValueFault name.keyText) :=
  (Acts.orValueFault hkey Value.exists_of_isKey fun crate h => hname hset crate h).keeps

lemma processImport_built {i : Import} (hi : T.modules (Text.before i.module "."))
    (h : ¬ T.errors .emptyName → ∀ name ∈ i.names, name.1 ≠ "") :
    Built (Keeps T) T Any (processImport i) := by
  unfold processImport
  dsimp only
  split
  · exact importNative_built _ _
  refine (Acts.lookup (.importedCrate? hi)).bind fun found hfound => ?_
  split
  · rename_i name hname
    obtain ⟨hsome, hset⟩ := Option.filter_eq_some_iff.1 hname
    obtain ⟨hfrom, hkey⟩ := hfound name hsome
    exact (keyText_built hfrom hkey hset).bind fun crate hc => importPackage_built h _ hc
  · refine (Acts.context rfl).bind fun c _ => ?_
    split
    · exact importLocal_built h _
    · exact .done

lemma processImports_built {imports : List Import}
    (hmodules : ∀ i ∈ imports, T.modules (Text.before i.module "."))
    (h : ¬ T.errors .emptyName → ∀ i ∈ imports, ∀ name ∈ i.names, name.1 ≠ "") :
    Built (Keeps T) T Any (processImports imports) :=
  Acts.listForM fun i hi => processImport_built (hmodules i hi) fun hE => h hE i hi

lemma importLines_built (m : Module) : Built Quiet T Any (importLines m) := by
  unfold importLines
  refine (Acts.context rfl).bind fun c _ => ?_
  exact (Acts.asking rfl (.neededUses rfl)).map

lemma constantValue_plain {value : Expr} (h : T.Supplies value.isSupplied) :
    Mild T (constantValue value) := by
  unfold constantValue
  split
  case h_5 => exact (expr_plain _ h).map
  all_goals exact .done

lemma constantItem_plain {s : Stmt} (h : T.Supplies s.isSupplied) : Mild T (constantItem s) := by
  unfold constantItem constant
  split
  · refine Acts.bind (P := Any) ?_ fun line _ => .done
    exact (constantValue_plain h).map
  · exact .done

lemma stmt_built (told : TellsErrors T) {s : Stmt} (h : T.Supplies s.isSupplied) :
    Built (Keeps T) T Any (stmt s) := by
  unfold stmt
  refine (Acts.context rfl).bind fun c _ => ?_
  exact (stmtCode_framed told s h).built.map

lemma mainLines_built (told : TellsErrors T) {statements : List Stmt}
    (h : ∀ s ∈ statements, T.Supplies s.isSupplied) :
    Built (Keeps T) T Any (mainLines statements) := by
  unfold mainLines
  split
  · exact .done
  refine .changing (fun _ h => h) ?_
  refine (Acts.listMapM fun s hs => stmt_built told (h s hs)).bind fun lines _ => ?_
  exact .changing (fun _ h => h) .done

lemma isMainCheck_of_isConstant {s : Stmt} (h : isConstant s = true) :
    isMainCheck s = false ∧ runsAsync s = false := by
  unfold isConstant at h
  split at h
  · exact ⟨rfl, rfl⟩
  · cases h

lemma module_built {m : Module} (hm : ModuleReady T m) : Built (Keeps T) T Any (module m) := by
  have hclass (c : IR.Class) (hc : ClassReady T c) : Built (Keeps T) T Any (classItem c) :=
    (classItem_framed (o := .rest) hm.told hc).built
  have hfunction (f : Function) (hf : BodyReady T f ∧ Undecorated T f.decoration) :
      Built (Keeps T) T Any (function f) := (function_framed (o := .rest) hm.told hf.1 hf.2).built
  have hopening : Built (Keeps T) T Any (opening m) := by
    unfold opening noteResults
    refine .changing (fun _ h => h) ?_
    refine .changing (fun _ h => h) ?_
    refine (processImports_built hm.modules hm.imports).bind fun _ _ => ?_
    refine (Acts.context rfl).bind fun c hc => ?_
    exact Acts.asking rfl (.takeImports rfl hc.imports)
  unfold module
  refine hopening.bind fun _ _ => ?_
  refine (Acts.listMapM fun item hitem => ?_).bind fun classes _ => ?_
  · exact (hclass item (hm.classes item hitem)).map
  refine (Acts.listMapM fun f hf => ?_).bind fun functions _ => ?_
  · exact (hfunction f (hm.functions f hf)).map
  refine (Acts.listMapM fun s hs => ?_).shy.keeps.bind fun constants _ => ?_
  · obtain ⟨hmem, hconstant⟩ := mem_filter.1 hs
    obtain ⟨hcheck, hasync⟩ := isMainCheck_of_isConstant hconstant
    exact constantItem_plain (hm.statements s hmem hcheck hasync)
  refine (mainLines_built hm.told fun s hs => ?_).bind fun main _ => ?_
  · obtain ⟨hmem, hkept⟩ := mem_filter.1 hs
    simp only [Bool.and_eq_true, Bool.not_eq_true'] at hkept
    exact hm.statements s hmem hkept.1.2 hkept.2
  exact (importLines_built m).keeps.map

end Emit

/-- Where every error is allowed, a module is ready if its imports may be looked for. -/
lemma ModuleReady.of_modules {crates modules : String → Prop} {m : Module}
    (h : ∀ i ∈ m.imports, modules (Text.before i.module ".")) :
    ModuleReady ⟨crates, modules, Any⟩ m :=
  ⟨fun _ _ => trivial, h, fun hE => absurd trivial hE, fun _ _ => ⟨.free, .free⟩, fun _ _ => .free,
    fun _ _ _ _ hE => absurd trivial hE⟩

end Oxidize
