import Oxidize.Proofs.Emission.Plain
import Oxidize.Proofs.Emission.Supplied

/-!
# Writing calls

What is known of a value, and writing a call: it learns nothing about variables, it asks the
registry by name only for crates that the program imports from, and it fails only if a field of a
mapping has another form than its use needs, an argument is missing, a name is empty or a pointer
leads to a built-in type.
-/

namespace Oxidize

open IR (Expr)
open Mapping List Option

variable {C : Manner} {T : Terms}

/-! ## Types -/

namespace Resolver

variable {crate : String}

lemma typePath?_consults (name : String) (hc : T.crates crate) :
    Consults T Any (typePath? name crate) := by
  unfold typePath?
  refine (Asks.lookup (.type? name hc)).bind fun path _ => ?_
  exact .done

lemma importedType_consults (name : String) (hc : T.crates crate) (parent : String) :
    Consults T Any (importedType name crate parent) := by
  unfold importedType
  refine (typePath?_consults name hc).bind fun path _ => ?_
  exact .done

lemma byName_consults (name : String) {imports : Table String} (hi : AllFrom T.crates imports) :
    Consults T Any (resolveUnknown.byName name imports) := by
  unfold resolveUnknown.byName
  split
  · rename_i crate hc
    exact importedType_consults name (hi.get? hc) crate
  · refine (Asks.classType? name).bind fun type _ => ?_
    exact .done

lemma resolveUnknown_consults (name : String) (module : Option String) :
    Consults T Any (resolveUnknown name module) := by
  unfold resolveUnknown
  refine Asks.imported.bind fun imports hi => ?_
  split
  · rename_i m crate hm
    split
    · exact byName_consults name hi
    · refine importedType_consults name ?_ _
      obtain ⟨m', _, hcrate⟩ := bind_eq_some_iff.1 hm
      obtain ⟨crate', hget, hpair⟩ := map_eq_some_iff.1 hcrate
      cases hpair
      exact hi.get? hget
  · exact byName_consults name hi

lemma resolveClass_consults (name : String) (module : Option String) :
    Consults T Any (resolveClass name module) := by
  unfold resolveClass
  split
  · exact .done
  split
  · exact .done
  split
  · exact (Asks.need _).map
  split
  · exact (Asks.need _).map
  split
  · refine (Asks.need _).bind fun _ _ => ?_
    split
    · exact .done
    · exact resolveUnknown_consults name module
  · exact resolveUnknown_consults name module

lemma boxedTrait?_consults (t : IR.Ty) : Consults T Any (boxedTrait? t) := by
  unfold boxedTrait?
  split
  · refine Asks.imported.bind fun imports _ => ?_
    split <;> exact .done
  · exact .done

mutual

lemma resolve_consults (t : IR.Ty) : Consults T Any (resolve t) := by
  cases t with
  | prim kind =>
    rw [resolve]
    exact .done
  | generic name args =>
    rw [resolve.eq_def]
    dsimp only
    split
    · cases args with
      | nil => exact .done
      | cons a rest => exact (resolve_consults a).map
    split
    · split
      · exact .done
      · exact (resolveAll_consults args).map
    refine Asks.imported.bind fun imports hi => ?_
    split
    · exact (resolveAll_consults args).map
    split
    · rename_i crate hc
      refine (typePath?_consults name (hi.get? hc)).bind fun path _ => ?_
      split
      · split
        · exact .done
        split
        · split
          · exact (resolve_consults _).map
          · refine (resolve_consults _).bind fun error _ => ?_
            split <;> exact (resolve_consults _).map
        split
        · refine (boxedTrait?_consults _).bind fun boxed _ => ?_
          split
          · exact .done
          · exact (resolve_consults _).map
        · refine (resolve_consults _).bind fun first _ => ?_
          exact (resolveAll_consults _).map
      · exact (resolveAll_consults args).map
    · split
      · refine (Asks.need _).bind fun _ _ => ?_
        exact (resolveAll_consults args).map
      · exact (resolveAll_consults args).map
  | union options choice =>
    match options with
    | [a, b] =>
      rw [resolve]
      split
      · exact (resolve_consults b).map
      split
      · exact (resolve_consults a).map
      · exact .done
    | [] | [_] | _ :: _ :: _ :: _ =>
      rw [resolve]
      · exact .done
      · simp
  | func _ _ =>
    rw [resolve]
    exact .done
  | cls name module =>
    rw [resolve]
    exact resolveClass_consults name module

lemma resolveAll_consults (ts : List IR.Ty) : Consults T Any (resolveAll ts) := by
  cases ts with
  | nil =>
    rw [resolveAll]
    exact .done
  | cons t ts =>
    rw [resolveAll]
    refine (resolve_consults t).bind fun first _ => ?_
    exact (resolveAll_consults ts).map

end

end Resolver

/-! ## What is known about a value -/

/-- A known type comes from an allowed crate, if its crate is known. -/
def KnownType.From (K : String → Prop) (t : KnownType) : Prop :=
  ∀ crate ∈ t.crate, K crate

namespace Context

variable {K : String → Prop} {c : Context}

lemma crateOfType?_from (hc : AllFrom K c.crateImports) (type : String) :
    ∀ crate ∈ c.crateOfType? type, K crate := by
  intro crate h
  unfold crateOfType? at h
  split at h
  · simp at h
  dsimp only at h
  split at h
  · rename_i crate' hget
    obtain rfl : crate' = crate := by simpa using h
    exact hc.get? hget
  · obtain ⟨entry, hfind, rfl⟩ := map_eq_some_iff.1 h
    exact hc _ (mem_map_of_mem (mem_of_find?_eq_some hfind))

lemma knownType_from (hc : AllFrom K c.crateImports) (type : String) : (c.knownType type).From K :=
  crateOfType?_from hc type

lemma importedType?_from (hc : AllFrom K c.crateImports) (name : String) :
    ∀ t ∈ c.importedType? name, t.From K := by
  intro t h crate hcrate
  obtain ⟨crate', hget, rfl⟩ := map_eq_some_iff.1 h
  obtain rfl : crate' = crate := by simpa using hcrate
  exact hc.get? hget

lemma pointerContent?_from (hc : AllFrom K c.crateImports) {param : String}
    {found : Option KnownType} (h : c.pointerContent? param = .ok found) :
    ∀ t ∈ found, t.From K := by
  unfold pointerContent? at h
  split at h
  · split at h
    · split at h
      · cases h
        intro t ht
        cases ht
        exact crateOfType?_from hc _
      · cases h
      · cases h
        simp
    · cases h
      simp
  · cases h
    simp

end Context

namespace Emit

lemma mapping?_query (module func : String) :
    Query T (Found T.errors) (Library.mapping? module func) := by
  unfold Library.mapping?
  dsimp only
  cases hbuiltin : Library.builtin? s!"{module}.{func}" with
  | some m =>
    refine .pure ?_
    rw [← hbuiltin]
    exact found_builtin? _
  | none => exact .function? _

lemma resolve_plain (t : IR.Ty) : Plain C T Any (resolve t) :=
  .resolving (Resolver.resolve_consults t)

variable {args texts : List String} {name func : String}

lemma argument_plain {i : Nat} (h : ¬ T.errors .missingArgument → i < args.length) :
    Plain C T Any (argument args i) := by
  unfold argument
  split
  · exact .done
  · rename_i hnone
    refine .throw (Classical.byContradiction fun hE => ?_)
    exact absurd (h hE) (Nat.not_lt.2 (getElem?_eq_none_iff.1 hnone))

lemma mapM_importPath {parts : List Value} (h : parts.all Value.isText = true) :
    ∃ paths, parts.mapM importPath = .ok paths := by
  induction parts with
  | nil => exact ⟨[], rfl⟩
  | cons part parts ih =>
    rw [all_cons, Bool.and_eq_true] at h
    obtain ⟨path, rfl⟩ := Value.exists_of_isText h.1
    obtain ⟨paths, hpaths⟩ := ih h.2
    exact ⟨path :: paths, by rw [mapM_cons, hpaths]; rfl⟩

lemma needImports_plain {m : Mapping} (hm : Usable T.errors isUsable m) :
    Mild T (needImports m.imports) := by
  unfold needImports
  refine .bind (P := Any) (.orValueFault hm (fun husable => ?_) fun _ _ => trivial) fun paths _ => ?_
  · obtain ⟨parts, hparts, hall⟩ := exists_imports husable
    obtain ⟨paths, hpaths⟩ := mapM_importPath hall
    exact ⟨paths, by rw [Value.listed, hparts]; exact hpaths⟩
  · exact .change {}

lemma namesClass_plain (h : ¬ T.errors .emptyName → name ≠ "") :
    Plain C T Any (namesClass name) := by
  unfold namesClass
  split
  · exact .done
  · rename_i hnone
    refine .throw (Classical.byContradiction fun hE => h hE ?_)
    unfold Text.startsUpper? at hnone
    rw [map_eq_none_iff, head?_eq_none_iff] at hnone
    exact String.toList_eq_nil_iff.1 hnone

variable {crate : String}

lemma ne_empty_of_imported {c : Context} (hc : c.Within T)
    (h : c.crateImports.get? name = some crate) : ¬ T.errors .emptyName → name ≠ "" := by
  intro hE hname
  rw [hname, hc.names hE] at h
  cases h

lemma methodType_plain {receiver : KnownType} (hr : receiver.From T.crates) (method : String) :
    Plain C T (fun found => ∀ t ∈ found, t.From T.crates) (methodType receiver method) := by
  unfold methodType
  split
  · exact .pure (by simp)
  refine (Acts.lookup (.method? _ method hr)).bind fun m hm => ?_
  split
  · split
    · rename_i m hset
      refine .bind (P := Any) (.orValueFault (hm m rfl) (fun husable => ?_) fun _ _ => trivial)
        fun returned _ => ?_
      · obtain ⟨text, htext⟩ := exists_returns husable hset
        exact ⟨text, by rw [htext]; rfl⟩
      refine .read rfl fun c hc => ?_
      refine .pure ?_
      intro t ht crate hcrate
      cases ht
      simp only [mem_def, orElse_eq_orElse, orElse_eq_or, or_eq_some_iff] at hcrate
      rcases hcrate with h | ⟨_, h⟩
      · exact Context.crateOfType?_from hc.imports returned crate (eq_some_of_filter_eq_some h)
      · exact hr crate h
    · refine .pure ?_
      intro t ht
      cases ht
      exact hr
  · exact .pure (by simp)

lemma pointerContent?_error {c : Context} (hc : c.Within T) {param : String} {error : EmitError}
    (h : c.pointerContent? param = .error error) : T.errors error := by
  unfold Context.pointerContent? at h
  split at h
  · rename_i hget
    split at h
    · rename_i hpointer
      split at h <;> cases h
      refine Classical.byContradiction fun hE => ?_
      have hbuiltin := hc.pointers hE _ (Table.mem_values_of_get? hget)
      rw [IR.Ty.pointsToBuiltin, hpointer] at hbuiltin
      cases hbuiltin
    · cases h
  · cases h

lemma pointerType_plain (obj : Expr) (method : String) :
    Plain C T (fun found => ∀ t ∈ found, t.From T.crates) (pointerType obj method) := by
  unfold pointerType
  split
  · split
    · refine .read rfl fun c hc => ?_
      cases h : c.pointerContent? _ with
      | ok found => exact .pure (Context.pointerContent?_from hc.imports h)
      | error error => exact .throw (pointerContent?_error hc h)
    · exact .pure (by simp)
  · exact .pure (by simp)

lemma importedName_plain (e : Expr) :
    Plain C T (fun found => ∀ t ∈ found, t.From T.crates) (importedName e) := by
  unfold importedName
  split
  · refine .read rfl fun c hc => ?_
    exact .pure (Context.importedType?_from hc.imports _)
  · exact .pure (by simp)

lemma inferType_plain (e : Expr) :
    Plain C T (fun found => ∀ t ∈ found, t.From T.crates) (inferType e) := by
  fun_induction inferType e with
  | case1 n line =>
    refine .read rfl fun c hc => ?_
    split
    · refine .pure ?_
      intro t ht
      cases ht
      exact Context.knownType_from hc.imports _
    · exact .pure (Context.importedType?_from hc.imports n)
  | case2 obj attr line ih =>
    refine ih.bind fun found hfound => ?_
    split
    · rename_i receiver
      split
      · refine .pure ?_
        intro t ht
        cases ht
        exact hfound receiver rfl
      · exact .pure (by simp)
    · exact .pure (by simp)
  | case3 obj method args kwargs line ih =>
    refine (importedName_plain obj).bind fun found hfound => ?_
    split
    · exact .pure hfound
    refine (pointerType_plain obj method).bind fun found hfound => ?_
    split
    · exact .pure hfound
    refine ih.bind fun found hfound => ?_
    split
    · exact methodType_plain (hfound _ rfl) method
    · exact .pure (by simp)
  | case4 args kwargs line obj =>
    exact importedName_plain obj
  | case5 args kwargs line n =>
    refine .read rfl fun c hc => ?_
    have himported := Context.importedType?_from hc.imports n
    split
    · rename_i type h
      rw [h] at himported
      obtain ⟨crate, hcrate, -⟩ := map_eq_some_iff.1 h
      refine (namesClass_plain (ne_empty_of_imported hc hcrate)).bind fun isClass _ => ?_
      split
      · exact .pure himported
      · exact .pure (by simp)
    · exact .pure (by simp)
  | case6 | case7 => exact .pure (by simp)

lemma libraryLeavesResult_plain (module func : String) :
    Plain C T Any (libraryLeavesResult module func) := by
  unfold libraryLeavesResult
  refine (Acts.lookup (mapping?_query module func)).bind fun m _ => ?_
  split <;> exact .done

lemma packageLeavesResult_plain (name : String) (member : Option String) :
    Plain C T Any (packageLeavesResult name member) := by
  unfold packageLeavesResult
  refine .read rfl fun c _ => ?_
  split
  · exact (Acts.lookup (.function? _)).map
  · exact .done

lemma callLeavesResult_plain (func : Expr) : Plain C T Any (callLeavesResult func) := by
  unfold callLeavesResult
  refine .read rfl fun c _ => ?_
  split
  · split
    · exact .done
    · exact packageLeavesResult_plain _ _
  · split
    · exact .done
    refine (packageLeavesResult_plain _ _).bind fun leaves _ => ?_
    split
    · exact .done
    · exact libraryLeavesResult_plain _ _
  · exact .done

lemma importedLeavesResult_plain (type method : String) :
    Plain C T Any (importedLeavesResult type method) := by
  unfold importedLeavesResult
  refine .read rfl fun c hc => ?_
  split
  · rename_i crate hcrate
    refine (Acts.lookup (.function? _)).bind fun m _ => ?_
    split
    · exact .done
    refine (Acts.lookup (.method? _ _ ?_)).map
    intro crate' h
    cases h
    exact hc.imports.get? hcrate
  · exact .done

lemma inferredLeavesResult_plain (obj : Expr) (method : String) :
    Plain C T Any (inferredLeavesResult obj method) := by
  unfold inferredLeavesResult
  refine (inferType_plain obj).bind fun found hfound => ?_
  split
  · rename_i t
    split
    · exact .done
    · exact (Acts.lookup (.method? _ _ (hfound t rfl))).map
  · exact .done

lemma chainLeavesResult_plain (obj : Expr) (method : String) :
    Plain C T Any (chainLeavesResult obj method) := by
  unfold chainLeavesResult
  refine (inferredLeavesResult_plain obj method).bind fun leaves _ => ?_
  split
  · exact .done
  split
  · exact libraryLeavesResult_plain _ _
  · exact .done

lemma methodLeavesResult_plain (obj : Expr) (method : String) :
    Plain C T Any (methodLeavesResult obj method) := by
  unfold methodLeavesResult
  refine .read rfl fun c hc => ?_
  split
  · exact .done
  split
  · refine (importedLeavesResult_plain _ _).bind fun leaves _ => ?_
    split
    · exact .done
    refine (libraryLeavesResult_plain _ _).bind fun leaves _ => ?_
    split
    · exact .done
    split
    · refine (Acts.lookup (.method? _ _ ?_)).map
      exact Context.crateOfType?_from hc.imports _
    · exact chainLeavesResult_plain _ _
  · exact chainLeavesResult_plain _ _

lemma exprLeavesResult_plain (e : Expr) : Plain C T Any (exprLeavesResult e) := by
  unfold exprLeavesResult
  split
  · exact callLeavesResult_plain _
  · exact methodLeavesResult_plain _ _
  · exact .done

/-! ## Mapped calls -/

lemma addMutVar_plain (name : String) : Mild T (addMutVar name) :=
  .change { grows := fun _ _ hv => NameSet.mem_add.2 (.inr hv) }

lemma handleResult_plain (code : String) (fallible : Bool) :
    Plain C T Any (handleResult code fallible) := by
  unfold handleResult
  split
  · exact .done
  refine .read rfl fun c _ => ?_
  split
  · split <;> exact .done
  · exact .done

lemma passArg_plain (arg type : String) : Mild T (passArg arg type) := by
  unfold passArg
  dsimp only
  split
  · exact (addMutVar_plain _).map
  · exact .done

variable {types : List Value}

lemma passTyped_plain (h : Usable T.errors (List.all · Value.isText) types)
    (args : List String) : Mild T (passTyped types args) := by
  fun_induction passTyped types args with
  | case1 type types arg args ih =>
    refine .bind (P := Any) (.orValueFault h (fun husable => ?_) fun _ _ => trivial)
      fun text _ => ?_
    · rw [all_cons, Bool.and_eq_true] at husable
      obtain ⟨text, rfl⟩ := Value.exists_of_isText husable.1
      exact ⟨text, rfl⟩
    refine (passArg_plain arg text).bind fun first _ => ?_
    refine (ih (h.imp fun husable => ?_)).map
    rw [all_cons, Bool.and_eq_true] at husable
    exact husable.2
  | case2 => exact .done

lemma typesByPosition_eq {v : Value} (h : typesByPosition v = .ok types) :
    v.parts? = some types := by
  unfold typesByPosition at h
  split at h
  · cases h
  · split at h
    · rename_i hparts
      cases h
      exact hparts
    · cases h

section Mapped

variable {m : Mapping} (hm : Usable T.errors isUsable m)

include hm

lemma usable_paramTypes (hset : m.paramTypes.isSet = true)
    (h : m.paramTypes.parts? = some types) : Usable T.errors (List.all · Value.isText) types := by
  refine hm.imp fun husable => ?_
  obtain ⟨-, parts, hparts, hall⟩ := exists_paramTypes husable hset
  rw [h] at hparts
  cases hparts
  exact hall

lemma passArgs_plain (args : List String) : Mild T (passArgs m args) := by
  unfold passArgs
  split
  · rename_i hset
    rw [Bool.and_eq_true] at hset
    refine .bind (P := Usable T.errors (List.all · Value.isText))
      (.orValueFault hm (fun husable => ?_)
        fun types htypes => usable_paramTypes hm hset.1 (typesByPosition_eq htypes))
      fun types htypes => passTyped_plain htypes args
    obtain ⟨hentries, parts, hparts, -⟩ := exists_paramTypes husable hset.1
    refine ⟨parts, ?_⟩
    unfold typesByPosition
    split
    · rename_i entries htable
      rw [htable] at hentries
      cases hentries
    · rw [hparts]
  · exact .done

lemma template_plain (read : Value → Except ValueFault String)
    (hread : ∀ text, read (.str text) = .ok text) :
    Plain C T Any (orValueFault (read m.template)) := by
  refine .orValueFault hm (fun husable => ?_) fun _ _ => trivial
  obtain ⟨text, htext⟩ := exists_template husable
  exact ⟨text, by rw [htext, hread]⟩

lemma templateOf_plain : Plain C T Any (templateOf m) :=
  template_plain hm (·.textFor "replace") fun _ => rfl

lemma mappedCall_plain (args : List String) : Mild T (mappedCall m args) := by
  unfold mappedCall
  refine (template_plain hm Value.searched fun _ => rfl).bind fun template _ => ?_
  refine (passArgs_plain hm args).bind fun passed _ => ?_
  exact (needImports_plain hm).map

lemma handledCall_plain (args : List String) : Mild T (handledCall m args) := by
  unfold handledCall
  refine (mappedCall_plain hm args).bind fun code _ => ?_
  exact handleResult_plain code _

lemma mappedMethod_plain (obj : String) (args : List String) :
    Mild T (mappedMethod m obj args) := by
  unfold mappedMethod
  refine (templateOf_plain hm).bind fun template _ => ?_
  refine (needImports_plain hm).bind fun _ _ => ?_
  exact handleResult_plain _ _

lemma mappedCalendar_plain (args : List String) (named : Table String) :
    Mild T (mappedCalendar m args named) := by
  unfold mappedCalendar
  refine (templateOf_plain hm).bind fun template _ => ?_
  exact (needImports_plain hm).map

omit hm in
lemma injectType_plain (code method : String) : Plain C T Any (injectType code method) := by
  unfold injectType
  split
  · exact .done
  refine .read rfl fun c _ => ?_
  exact (Acts.note _ _ _).map

lemma convertInt_plain (code : String) : Plain C T Any (convertInt code m.returns) := by
  unfold convertInt
  refine .read rfl fun c _ => ?_
  split
  · rename_i target htarget
    have hset := (filter_eq_some_iff.1 htarget).2
    rw [Bool.and_eq_true] at hset
    refine .bind (P := Any) (.orValueFault hm (fun husable => ?_) fun _ _ => trivial)
      fun source _ => ?_
    · obtain ⟨text, htext⟩ := exists_returns husable hset.1
      exact ⟨text, by rw [htext]; rfl⟩
    split
    · exact (Acts.note _ _ _).map
    · exact .done
  · exact .done

lemma packageMethod_plain (method : String) {emitObj : Emit String}
    (hobj : Mild T emitObj) (args : List String) :
    Mild T (packageMethod m method emitObj args) := by
  unfold packageMethod
  refine hobj.bind fun obj _ => ?_
  refine (passArgs_plain hm args).bind fun passed _ => ?_
  refine (templateOf_plain hm).bind fun template _ => ?_
  refine (injectType_plain _ _).bind fun typed _ => ?_
  refine (needImports_plain hm).bind fun _ _ => ?_
  refine (handleResult_plain _ _).bind fun handled _ => ?_
  exact convertInt_plain hm handled

end Mapped

lemma nativeMapping?_plain (owner : String) (member : Option String) :
    Plain C T (Found T.errors) (nativeMapping? owner member) := by
  unfold nativeMapping?
  refine .read rfl fun c _ => ?_
  split
  · exact .lookup (mapping?_query _ _)
  · exact .pure fun _ h => absurd h (not_mem_none _)

variable {kwargs : List (String × Emit String)}

lemma namedSpan_plain (owner func : String) (hkw : ∀ kw ∈ kwargs, Plain C T Any kw.2) :
    Plain C T Any (namedSpan owner func kwargs) := by
  unfold namedSpan
  split
  · refine (Acts.listMapM fun kw hmem => ?_).map
    exact (hkw kw (mem_filter.1 hmem).1).map
  · exact .done

/-! ## Names and fields -/

lemma nameValue_plain (n : String) : Mild T (nameValue n) := by
  unfold nameValue
  refine .read rfl fun c _ => ?_
  split
  · exact .done
  refine (nativeMapping?_plain n none).bind fun m hm => ?_
  split
  · exact mappedCall_plain (hm _ rfl) _
  · exact .done

lemma crateMember_plain (hc : T.crates crate) (name member : String) :
    Plain C T Any (crateMember crate name member) := by
  have hfallback : Plain C T Any (crateMember.fallback crate name member) := by
    unfold crateMember.fallback
    refine (Acts.lookup (.package? hc)).bind fun found hfound => ?_
    cases found with
    | none => exact .done
    | some p =>
      refine .bind (P := Any) (.orValueFault (hfound p rfl) (fun husable => ?_)
        fun _ _ => trivial) fun spelled _ => .done
      obtain ⟨text, htext⟩ := Package.exists_crate husable
      exact ⟨text, by rw [map_some, getD_some, htext]; rfl⟩
  unfold crateMember
  refine (Acts.lookup (.variant? name member hc)).bind fun path _ => ?_
  split
  · split
    · exact .done
    · exact hfallback
  · exact hfallback

variable {emitObj : Emit String}

lemma calendarField_plain (n member : String)
    (hobj : Mild T emitObj) : Mild T (calendarField n member emitObj) := by
  unfold calendarField
  refine .read rfl fun c _ => ?_
  dsimp only
  split
  · rename_i m hfound
    obtain ⟨type, -, hget⟩ := bind_eq_some_iff.1 hfound
    have hm := found_calendarMethod? (E := T.errors) _ m hget
    refine hobj.bind fun obj _ => ?_
    refine (templateOf_plain hm).bind fun template _ => ?_
    exact (needImports_plain hm).map
  · exact .done

lemma memberOfName_plain (n member : String)
    (hobj : Mild T emitObj) : Mild T (memberOfName n member emitObj) := by
  unfold memberOfName
  refine (nativeMapping?_plain n (some member)).bind fun m hm => ?_
  split
  · exact (mappedCall_plain (hm _ rfl) _).map
  refine (Acts.lookup (mapping?_query n member)).bind fun m hm => ?_
  split
  · exact (needImports_plain (hm _ rfl)).map
  refine .orElse (calendarField_plain n member hobj) ?_ fun _ => rfl
  refine .read rfl fun c hc => ?_
  split
  · rename_i crate hcrate
    exact (crateMember_plain (hc.imports.get? hcrate) n member).map
  · exact .done

lemma mappedField_plain (obj : Expr) (hobj : Mild T emitObj) (member : String) :
    Mild T (mappedField obj emitObj member) := by
  unfold mappedField
  split
  · exact memberOfName_plain _ member hobj
  · exact .done

lemma field_plain (obj : Expr) (hobj : Mild T emitObj)
    (member : String) : Mild T (field obj emitObj member) := by
  unfold field
  refine .orElse (mappedField_plain obj hobj member) ?_ fun _ => rfl
  refine (inferType_plain obj).bind fun type _ => ?_
  exact hobj.map

/-! ## Calls -/

lemma packageCall_plain (key : String) (args : List String) : Mild T (packageCall key args) := by
  unfold packageCall
  refine (Acts.lookup (.function? key)).bind fun m hm => ?_
  split
  · exact (handledCall_plain (hm _ rfl) args).map
  · exact .done

lemma libraryCall_plain (module func : String) (args : List String) :
    Mild T (libraryCall module func args) := by
  unfold libraryCall
  refine (Acts.lookup (mapping?_query module func)).bind fun m hm => ?_
  split
  · exact (handledCall_plain (hm _ rfl) args).map
  · exact .done

lemma nativeCall_plain (owner : String) (member : Option String) (args : List String) :
    Mild T (nativeCall owner member args) := by
  unfold nativeCall
  refine (nativeMapping?_plain owner member).bind fun m hm => ?_
  split
  · exact (handledCall_plain (hm _ rfl) args).map
  · exact .done

lemma importedCall_plain (name : String) (args : List String) :
    Mild T (importedCall name args) := by
  unfold importedCall
  refine .orElse (nativeCall_plain name none args) ?_ fun _ => rfl
  refine .read rfl fun c _ => ?_
  split
  · exact packageCall_plain _ args
  · exact .done

lemma importedMemberCall_plain (owner func : String) (args : List String) :
    Mild T (importedMemberCall owner func args) := by
  unfold importedMemberCall
  refine .read rfl fun c _ => ?_
  split
  · exact packageCall_plain _ args
  · exact .done

lemma memberCall_plain (owner func : String) (args : List String)
    (hkw : ∀ kw ∈ kwargs, Mild T kw.2) : Mild T (memberCall owner func args kwargs) := by
  unfold memberCall
  refine .orElse (namedSpan_plain owner func hkw) ?_ fun _ => rfl
  refine .orElse (nativeCall_plain owner (some func) args) ?_ fun _ => rfl
  refine .orElse (importedMemberCall_plain owner func args) ?_ fun _ => rfl
  exact libraryCall_plain owner func args

lemma mappedFunction_plain (func : Expr) (args : List String)
    (hkw : ∀ kw ∈ kwargs, Mild T kw.2) : Mild T (mappedFunction func args kwargs) := by
  unfold mappedFunction
  split
  · exact importedCall_plain _ args
  · exact memberCall_plain _ _ args hkw
  · exact .done

lemma importedConstructor_plain (func : Expr) (args : List String) :
    Mild T (importedConstructor func args) := by
  unfold importedConstructor
  split
  · refine .read rfl fun c hc => ?_
    split
    · rename_i hcrate
      refine (namesClass_plain (ne_empty_of_imported hc hcrate)).bind fun isClass _ => ?_
      split
      · exact packageCall_plain _ args
      · exact .done
    · exact .done
  · exact .done

lemma lengthCall_plain (h : ¬ T.errors .missingArgument → 0 < args.length) :
    Plain C T Any (lengthCall args) := by
  unfold lengthCall
  refine .read rfl fun c _ => ?_
  exact (argument_plain h).map

lemma builtinCall_plain (args : List Expr)
    (h : ¬ T.errors .missingArgument → func ∈ builtinWords → 0 < texts.length) :
    Plain C T Any (builtinCall func args texts) := by
  unfold builtinCall
  split
  case h_5 =>
    exact (lengthCall_plain fun hE => h hE (by decide)).map
  case h_7 | h_8 | h_9 =>
    exact (argument_plain fun hE => h hE (by decide)).map
  case h_10 | h_12 => split <;> exact .done
  all_goals exact .done

lemma passesOn_plain (func : String) : Plain C T Any (passesOn func) := by
  unfold passesOn
  exact .read rfl fun c _ => .done

lemma pathCall_plain (func : String) (texts : List String) :
    Plain C T Any (pathCall func texts) := by
  unfold pathCall
  split
  · rename_i m hfound
    split at hfound
    · exact (templateOf_plain (found_pathMethods _ m hfound)).map
    · cases hfound
  · exact .done

lemma writtenCall_plain (callee : Expr) (args : List Expr)
    (h : ¬ T.errors .missingArgument → func ∈ builtinWords → 0 < texts.length) :
    Mild T (writtenCall callee func args texts) := by
  unfold writtenCall
  refine .orElse (pathCall_plain func texts) ?_ fun _ => rfl
  refine .orElse (importedConstructor_plain callee texts) ?_ fun _ => rfl
  refine .read rfl fun c _ => ?_
  split
  · exact .done
  exact .orElse (builtinCall_plain args h) (passesOn_plain func).map fun _ => rfl

/-! ## Method calls -/

namespace MethodCall

/-- Writing the parts of a method call is plain, and the call has the arguments that it needs. -/
structure Quietly (T : Terms) (c : MethodCall) : Prop where
  obj : Mild T c.emitObj
  kwargs : ∀ kw ∈ c.kwargs, Mild T kw.2
  args : ¬ T.errors .missingArgument → neededArguments c.method ≤ c.texts.length

variable {c : MethodCall} {m : Mapping}

lemma ofConstant_plain (hm : Usable T.errors isUsable m) : Mild T (c.ofConstant m) := by
  unfold ofConstant
  refine (templateOf_plain hm).bind fun template _ => ?_
  refine (needImports_plain hm).bind fun _ _ => ?_
  exact handleResult_plain _ _

lemma ofImport_plain (name : String) (hc : T.crates crate) : Mild T (c.ofImport name crate) := by
  unfold ofImport
  refine .read rfl fun ctx _ => ?_
  refine .orElse (packageCall_plain _ _) ?_ fun _ => rfl
  refine (Acts.lookup (.method? _ _ ?_)).bind fun m hm => ?_
  · intro crate' h
    cases h
    exact hc
  split
  · exact (ofConstant_plain (hm _ rfl)).map
  · exact .done

lemma errorWrapper_plain (written : String) : Plain C T Any (c.errorWrapper written) := by
  unfold errorWrapper
  split
  · refine .read rfl fun ctx _ => ?_
    split
    · refine (Acts.lookup (.function? _)).bind fun m hm => ?_
      split
      · split
        · exact .done
        · exact (template_plain (hm _ rfl) (·.textFor "split") fun _ => rfl).map
      · exact .done
    · exact .done
  · exact .done

lemma combinator_plain : Plain C T Any c.combinator := by
  unfold combinator
  split
  · dsimp only
    split
    · exact .done
    split
    · split
      · exact .done
      split
      · exact .done
      split
      · exact .done
      split
      · exact (errorWrapper_plain _).map
      · exact .done
    · exact .done
  · exact .done

lemma ofCalendar_plain (hc : c.Quietly T) (hm : Usable T.errors isUsable m) :
    Mild T (c.ofCalendar m) := by
  unfold ofCalendar
  refine hc.obj.bind fun obj _ => ?_
  refine (templateOf_plain hm).bind fun template _ => ?_
  exact (needImports_plain hm).map

lemma ofVariable_plain (hc : c.Quietly T) (type : String) : Mild T (c.ofVariable type) := by
  unfold ofVariable
  dsimp only
  split
  · rename_i m hget
    exact (ofCalendar_plain hc (found_calendarMethod? _ m hget)).map
  refine .read rfl fun ctx hctx => ?_
  refine (Acts.lookup (.method? _ _ (Context.crateOfType?_from hctx.imports _))).bind fun m hm => ?_
  split
  · exact (packageMethod_plain (hm _ rfl) _ hc.obj _).map
  · exact .done

lemma ofPathVar_plain (hc : c.Quietly T) (name : String) : Mild T (c.ofPathVar name) := by
  unfold ofPathVar
  refine .read rfl fun ctx _ => ?_
  dsimp only
  split
  · rename_i m hfound
    split at hfound
    · refine hc.obj.bind fun obj _ => ?_
      exact (mappedMethod_plain (found_pathMethods _ m hfound) _ _).map
    · cases hfound
  · exact .done

lemma ofNative_plain (hc : c.Quietly T) : Mild T c.ofNative := by
  unfold ofNative
  refine (Acts.nativeMethod? _ _).bind fun m hm => ?_
  split
  · refine hc.obj.bind fun obj _ => ?_
    exact (mappedMethod_plain (hm _ rfl) _ _).map
  · exact .done

lemma ofPackageName_plain (name : String) : Mild T (c.ofPackageName name) := by
  unfold ofPackageName
  refine .read rfl fun ctx hctx => ?_
  split
  · rename_i crate hcrate
    exact ofImport_plain name (hctx.imports.get? hcrate)
  · exact .done

lemma ofImportedName_plain (hc : c.Quietly T) (name : String) : Mild T (c.ofImportedName name) := by
  unfold ofImportedName
  refine .orElse (namedSpan_plain _ _ hc.kwargs) ?_ fun _ => rfl
  refine .orElse (nativeCall_plain _ _ _) ?_ fun _ => rfl
  refine .orElse (ofPathVar_plain hc name) ?_ fun _ => rfl
  refine .orElse (ofNative_plain hc) ?_ fun _ => rfl
  refine .orElse (ofPackageName_plain name) ?_ fun _ => rfl
  refine .orElse (R := Any) ?_ ?_ fun _ => rfl
  · split
    · exact combinator_plain
    · exact .done
  refine .read rfl fun ctx _ => ?_
  split <;> exact .done

lemma ofCalendarName_plain (hc : c.Quietly T) (name : String) : Mild T (c.ofCalendarName name) := by
  unfold ofCalendarName
  split
  · rename_i m hget
    refine (Acts.listMapM fun kw hkw => ?_).bind fun named _ => ?_
    · exact (hc.kwargs kw hkw).map
    refine (mappedCalendar_plain (found_calendar? _ m hget) _ _).bind fun code _ => ?_
    exact (handleResult_plain _ _).map
  · exact .done

lemma ofModuleName_plain (hc : c.Quietly T) (name : String) : Mild T (c.ofModuleName name) := by
  unfold ofModuleName
  refine .orElse (libraryCall_plain _ _ _) ?_ fun _ => rfl
  refine .orElse (ofCalendarName_plain hc name) ?_ fun _ => rfl
  refine .read rfl fun ctx _ => ?_
  split
  · exact ofVariable_plain hc _
  · exact .done

lemma ofName_plain (hc : c.Quietly T) : Mild T c.ofName := by
  unfold ofName
  split
  · exact .orElse (ofImportedName_plain hc _) (ofModuleName_plain hc _) fun _ => rfl
  · exact .done

lemma ofChain_plain (hc : c.Quietly T) : Mild T c.ofChain := by
  unfold ofChain
  refine (inferType_plain c.obj).bind fun found hfound => ?_
  split
  · rename_i type
    split
    · exact .done
    refine (Acts.lookup (.method? _ _ (hfound type rfl))).bind fun m hm => ?_
    split
    · exact (packageMethod_plain (hm _ rfl) _ hc.obj _).map
    · exact .done
  · exact .done

lemma ofInnerModule_plain : Mild T c.ofInnerModule := by
  unfold ofInnerModule
  split
  · dsimp only
    split
    · exact .done
    refine .orElse (libraryCall_plain _ _ _) ?_ fun _ => rfl
    dsimp only
    split
    · rename_i m hget
      exact (handledCall_plain (found_calendar? _ m hget) _).map
    · exact .done
  · exact .done

lemma ofType_plain (hc : c.Quietly T) : Mild T c.ofType := by
  unfold ofType
  split
  · split <;> exact .done
  · refine .read rfl fun ctx _ => ?_
    split
    · exact hc.obj.map
    · exact .done
  · exact .done

lemma readAll_plain (obj : String) : Mild T (readAll obj) := by
  unfold readAll
  refine .read rfl fun ctx _ => ?_
  refine .changing {} ?_
  dsimp only
  split <;> exact .done

lemma onValue_plain (hc : c.Quietly T) (obj : String) : Mild T (c.onValue obj) := by
  have hargs := hc.args
  have harg {i : Nat} (h : ¬ T.errors .missingArgument → i < c.texts.length)
      {f : String → Option String} : Mild T (do return f (← argument c.texts i)) :=
    (argument_plain h).map
  unfold onValue
  dsimp only
  split
  case h_1 => exact .read rfl fun ctx _ => .done
  case h_2 hmethod | h_3 hmethod | h_11 hmethod | h_12 hmethod =>
    rw [hmethod] at hargs
    exact harg hargs
  case h_4 | h_6 | h_7 | h_19 | h_20 => split <;> exact .done
  case h_10 hmethod =>
    rw [hmethod] at hargs
    have htwo : ¬ T.errors .missingArgument → 2 ≤ c.texts.length := hargs
    refine (argument_plain fun hE => ?_).bind fun old _ => ?_
    · exact Nat.lt_of_lt_of_le (by decide) (htwo hE)
    · exact (argument_plain fun hE => htwo hE).map
  case h_18 =>
    split
    · exact (readAll_plain obj).map
    · exact .done
  all_goals exact .done

lemma asWritten_plain (obj : String) : Plain C T Any (c.asWritten obj) := by
  unfold asWritten
  exact (passesOn_plain _).map

lemma emit_plain (hc : c.Quietly T) : Mild T c.emit := by
  unfold emit
  refine .orElse (ofName_plain hc) ?_ fun _ => rfl
  refine .orElse (ofChain_plain hc) ?_ fun _ => rfl
  refine .orElse ofInnerModule_plain ?_ fun _ => rfl
  refine .orElse (ofType_plain hc) ?_ fun _ => rfl
  refine hc.obj.bind fun obj _ => ?_
  exact .orElse (onValue_plain hc obj) (asWritten_plain obj) fun _ => rfl

end MethodCall

end Emit

end Oxidize
