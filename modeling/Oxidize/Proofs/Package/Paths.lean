import Oxidize.Emit.Class
import Oxidize.Lower.Hint
import Oxidize.Proofs.Literals

/-!
# Paths of imported types

A name that is imported from a crate is spelled in two ways: the resolver of types spells it where
it annotates, and the writer of expressions where it is called or matched. Both take the path that
the package gives, if it gives one. Where it gives none, only the writer reads an alias back and
spells the crate as an identifier. The main result says for which names the two paths are the same.
-/

namespace Oxidize

open List

/-- The path that the package of a crate gives a type. -/
def Registry.path? (r : Registry) (name crate : String) : Option String :=
  (((r.packages.get? crate).bind fun p => p.types.get? name).filter Value.isSet).map Value.display

namespace Resolver

/-- The names that stand for the same type in every program. -/
def fixedNames : List String :=
  nativeNumbers ++ ["int", "float", "str", "bool", "bytes", "None", "NoneType", "object", "Any",
    "Path", "PurePath", "PosixPath", "WindowsPath", "Optional", "Tuple", "tuple"]

lemma run_typePath? (r : Resolver) (name crate : String) :
    ((typePath? name crate).run r).1 = r.registry.path? name crate := by
  unfold Registry.path?
  rw [← Registry.type?_some_run]
  rfl

lemma run_resolve_imported {r : Resolver} {name crate : String} (hname : name ∉ fixedNames)
    (himport : r.crateImports.get? name = some crate) :
    ((resolve (Lower.typeOfName name)).run r).1 =
      .named ((r.registry.path? name crate).getD s!"{crate}::{name}") := by
  have hprim : Lower.primOfName? name = none := by
    unfold Lower.primOfName?
    split <;> first | rfl | exact absurd (by decide) hname
  simp only [fixedNames, mem_append, mem_cons, not_mem_nil, or_false, not_or] at hname
  unfold Lower.typeOfName
  rw [hprim]
  dsimp only
  split
  · rename_i hgeneric
    have hcut : Text.cut? name "." = none := by
      have hall : ∀ generic ∈ Lower.genericNames, Text.cut? generic "." = none := by decide
      exact hall name (contains_iff_mem.1 hgeneric)
    rw [resolve.eq_def]
    simp only [hname, beq_iff_eq, Bool.or_eq_true, or_self, if_false, hcut, Option.bind_none]
    rw [StateT.run_bind, show imported.run r = pure (r.crateImports, r) from rfl, pure_bind, himport]
    dsimp only
    rw [StateT.run_bind, ← run_typePath?]
    obtain ⟨path, r'⟩ := (typePath? name crate).run r
    cases path with
    | some _ | none => rfl
  · have hclass : resolve (.cls name none) = resolveUnknown name none := by
      rw [resolve, resolveClass]
      simp [hname]
    have hbyName : ((resolveUnknown name none).run r).1 =
        ((resolveUnknown.byName name r.crateImports).run r).1 := rfl
    rw [hclass, hbyName, resolveUnknown.byName, himport]
    rw [← run_typePath?]
    rfl

end Resolver

lemma toList_crateIdent (crate : String) : (Resolver.crateIdent crate).toList =
    crate.toList.map fun c => if c = '-' then '_' else c := by
  unfold Resolver.crateIdent Text.replaceAll
  rw [String.toList_ofList, show "-".toList = ['-'] from rfl, show "_".toList = ['_'] from rfl,
    Emit.replaceChars_singleton]
  induction crate.toList with
  | nil => rfl
  | cons c cs ih =>
    rw [flatMap_cons, ih]
    split <;> simp_all

/-- Two paths with crates of the same length are equal only if their parts are. -/
lemma path_eq_iff {crate ident name type : String} (h : ident.toList.length = crate.toList.length) :
    s!"{crate}::{name}" = s!"{ident}::{type}" ↔ crate = ident ∧ name = type := by
  show crate ++ "::" ++ name = ident ++ "::" ++ type ↔ _
  simp only [← String.toList_inj, String.toList_append, append_assoc]
  constructor
  · intro heq
    obtain ⟨hcrate, hname⟩ := append_inj heq h.symm
    exact ⟨hcrate, append_cancel_left hname⟩
  · rintro ⟨hcrate, hname⟩
    rw [hcrate, hname]

lemma notMem_crateIdent (crate : String) : '-' ∉ (Resolver.crateIdent crate).toList := by
  rw [toList_crateIdent]
  intro hmem
  obtain ⟨c, -, hc⟩ := mem_map.1 hmem
  split at hc <;> simp_all

lemma crateIdent_eq_self_iff {crate : String} :
    crate = Resolver.crateIdent crate ↔ '-' ∉ crate.toList := by
  constructor
  · intro h
    rw [h]
    exact notMem_crateIdent crate
  · intro h
    rw [← String.toList_inj, toList_crateIdent, eq_comm]
    refine (map_congr_left fun c hc => if_neg ?_).trans (map_id _)
    exact fun hmark => h (hmark ▸ hc)

namespace Emit

variable {e : Emitter} {name crate : String}

lemma run_importedPath? (hcrate : crate ≠ "")
    (himport : e.ctx.crateImports.get? name = some crate) :
    (e.run (importedPath? name)).1 =
      .ok (some ((e.resolver.registry.path? (e.ctx.packageName name) crate).getD
        s!"{Resolver.crateIdent crate}::{e.ctx.packageName name}")) := by
  unfold importedPath? Registry.path?
  rw [Emitter.run_context_bind, himport, Option.filter_some, if_pos (by simpa using hcrate),
    ← Registry.type?_some_run]
  dsimp only
  rw [lookup, Emitter.run_bind_ok (Emitter.run_resolving e _)]
  have hlookup {l : Lookup (Option Value)} :
      ((Resolver.lookup l).run e.resolver).1 = (l.run e.resolver.registry).1 := rfl
  rw [hlookup]
  cases ((Registry.type? (e.ctx.packageName name) (some crate)).run e.resolver.registry).1.filter
      Value.isSet with
  | none | some _ => rfl

/-- In expressions an imported name has the path that the package gives what it stands for, or one
below the identifier of its crate. An annotation has the same path exactly if the package gives it
to the name itself, or where it gives the name none, if the name is no alias and its crate is
spelled without a hyphen. -/
theorem annotation_path_iff (hcrate : crate ≠ "")
    (himport : e.ctx.crateImports.get? name = some crate)
    (hshared : e.resolver.crateImports = e.ctx.crateImports)
    (hname : name ∉ Resolver.fixedNames) :
    ∃ annotated written : String,
      (e.run (resolve (Lower.typeOfName name))).1 = .ok (.named annotated) ∧
      (e.run (importedPath? name)).1 = .ok (some written) ∧
      written = (e.resolver.registry.path? (e.ctx.packageName name) crate).getD
        s!"{Resolver.crateIdent crate}::{e.ctx.packageName name}" ∧
      '-' ∉ (Resolver.crateIdent crate).toList ∧
      (annotated = written ↔
        e.resolver.registry.path? name crate = some written ∨
        e.resolver.registry.path? name crate = none ∧
          (e.resolver.registry.path? (e.ctx.packageName name) crate = some s!"{crate}::{name}" ∨
           e.resolver.registry.path? (e.ctx.packageName name) crate = none ∧
             e.ctx.packageName name = name ∧ '-' ∉ crate.toList)) := by
  have hannotated : (e.run (resolve (Lower.typeOfName name))).1 = .ok (.named
      ((e.resolver.registry.path? name crate).getD s!"{crate}::{name}")) := by
    rw [resolve, Emitter.run_resolving, Resolver.run_resolve_imported hname (hshared ▸ himport)]
  refine ⟨_, _, hannotated, run_importedPath? hcrate himport, rfl, notMem_crateIdent crate, ?_⟩
  generalize hgiven : e.resolver.registry.path? name crate = given
  cases given with
  | some path => simp
  | none =>
    generalize horiginal : e.resolver.registry.path? (e.ctx.packageName name) crate = original
    cases original with
    | some path => simp [eq_comm]
    | none =>
      simp only [Option.getD_none]
      rw [path_eq_iff (by rw [toList_crateIdent, length_map]), crateIdent_eq_self_iff]
      simp [and_comm, eq_comm]

/-- A program that imports two names from a crate, one of them under an alias. -/
def importingEmitter (crate : String) : Emitter where
  resolver := { crateImports := [("Gadget", crate), ("W", crate)] }
  ctx := { crateImports := [("Gadget", crate), ("W", crate)], importAliases := [("W", "Widget")] }

theorem annotation_path_gadget : ∃ annotated written,
    ((importingEmitter "fern").run (resolve (Lower.typeOfName "Gadget"))).1 = .ok (.named annotated) ∧
      ((importingEmitter "fern").run (importedPath? "Gadget")).1 = .ok (some written) ∧
      annotated = written := by
  obtain ⟨annotated, written, hannotated, hwritten, -, -, hpath⟩ :=
    @annotation_path_iff (importingEmitter "fern") "Gadget" "fern" (by decide) rfl rfl (by decide)
  exact ⟨annotated, written, hannotated, hwritten, hpath.2 (.inr ⟨rfl, .inr ⟨rfl, rfl, by decide⟩⟩)⟩

/-- In annotations the alias is taken for the type, and the hyphen of the crate is kept. -/
theorem annotation_path_alias :
    ((importingEmitter "my-crate").run (resolve (Lower.typeOfName "W"))).1 =
      .ok (.named "my-crate::W") ∧
    ((importingEmitter "my-crate").run (importedPath? "W")).1 =
      .ok (some "my_crate::Widget") := by
  constructor
  · rfl
  · rfl

end Emit

end Oxidize
