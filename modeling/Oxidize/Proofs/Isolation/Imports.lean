import Oxidize.Proofs.Isolation.Functions

/-!
# Imports of modules of the project

Every module of the project lies right below the root of the crate, under the last part of its
name. The lines that are written for an import look for it under the first part.
-/

namespace Oxidize.Emit

open IR (Import)
open Syntax (Stmt)
open List

/-- Import statements with the imports that they are taken over as. -/
inductive Imports : Stmt → Import → Prop
  | modules {names line} : Imports (.importNames names line)
      { module := Lower.importedModule names, names, line := some line }
  | items {module names line} : Imports (.importFrom module names line)
      { module := module.getD "", names, line := some line }

def fileName (module : String) : String :=
  ((Text.cutLast? module ".").map Prod.snd).getD module

/-- The lines that name what a statement imports. -/
def wantedUses (root : String) : Stmt → List String
  | .importNames names _ => names.map fun (name, alias?) => useLine s!"{root}::{name}" alias?
  | .importFrom module names _ =>
    let file := fileName (module.getD "")
    names.map fun (name, alias?) => useLine s!"{root}::{file}::{name}" alias?
  | _ => []

/-- The lines that are written for an import. -/
def writtenUses (c : Context) (i : Import) : List String :=
  let root := crateRoot c
  let module := Text.before i.module "."
  if c.localModules.contains module then
    i.names.map fun (name, alias?) => useLine s!"{root}::{module}::{name}" alias?
  else []

/-- The statement imports items of a module whose name has equal first and last parts. -/
def NamesFile (c : Context) (s : Stmt) (i : Import) : Prop :=
  (∃ module names line, s = .importFrom module names line) ∧
    Text.before i.module "." ∈ c.localModules ∧ Text.before i.module "." = fileName i.module

section Lines

variable {α β : Type} (f : String → α → β) (key : String) (added : List α) {b : β}

lemma mem_flatMap_set (t : Table (List α)) :
    b ∈ (t.set key ((Table.get? t key).getD [] ++ added)).flatMap (fun x => x.2.map (f x.1)) ↔
      b ∈ t.flatMap (fun x => x.2.map (f x.1)) ∨ b ∈ added.map (f key) := by
  induction t with
  | nil => simp [Table.set, Table.get?]
  | cons entry t ih =>
    obtain ⟨k, xs⟩ := entry
    by_cases hk : k = key
    · subst hk
      simp only [Table.set, Table.get?, lookup_cons, beq_self_eq_true, if_true,
        Option.getD_some, flatMap_cons, mem_append, map_append]
      tauto
    · have hget : Table.get? ((k, xs) :: t) key = Table.get? t key := by
        rw [Table.get?, lookup_cons, beq_eq_false_iff_ne.2 (Ne.symm hk)]
        rfl
      rw [Table.set, beq_eq_false_iff_ne.2 hk, if_neg Bool.false_ne_true, hget, flatMap_cons,
        flatMap_cons, mem_append, mem_append, ih, or_assoc]

end Lines

variable {e e' : Emitter} {i : Import} {s : Stmt}

/-- No native library and no package has the module of the import. -/
structure IsFree (e : Emitter) (i : Import) : Prop where
  native : Text.before i.module "." ≠ "rust_std"
  package : (e.resolver.registry.crateOfModule? (Text.before i.module ".")).filter Value.isSet = none

lemma importLocal_lines {module : String} {names : Table (Option String)}
    (hnames : names ≠ []) (h : e.run (importLocal module names) = (.ok (), e')) (line : String) :
    line ∈ localImportLines e'.ctx ↔ line ∈ localImportLines e.ctx ∨
      line ∈ names.map fun name =>
        useLine s!"{crateRoot e.ctx}::{module}::{name.1}" name.2 := by
  unfold importLocal at h
  rw [isEmpty_eq_false_iff.2 hnames, Emitter.run_change_bind] at h
  have hkept := Preserves.listForM (P := fun c => localImportLines c = localImportLines { e.ctx with
      localImports := e.ctx.localImports.set module
        ((e.ctx.localImports.get? module).getD [] ++ names) })
    (fun name => noteClass_preserves (fun _ _ hc => hc) _ _) rfl h
  rw [hkept]
  exact mem_flatMap_set (fun module (name : String × Option String) =>
    useLine s!"{crateRoot e.ctx}::{module}::{name.1}" name.2) module names _

lemma processImport_lines (hfree : IsFree e i) (hnames : i.names ≠ [])
    (h : e.run (processImport i) = (.ok (), e')) (line : String) :
    line ∈ localImportLines e'.ctx ↔
      line ∈ localImportLines e.ctx ∨ line ∈ writtenUses e.ctx i := by
  unfold processImport at h
  dsimp only at h
  rw [beq_eq_false_iff_ne.2 hfree.native, if_neg Bool.false_ne_true] at h
  have hlookup : e.run (lookup (Registry.importedCrate? (Text.before i.module "."))) =
      (.ok (e.resolver.registry.crateOfModule? (Text.before i.module ".")), e) := rfl
  rw [Emitter.run_bind_ok hlookup, hfree.package, Emitter.run_context_bind] at h
  unfold writtenUses
  dsimp only
  split at h
  · rw [if_pos ‹_›]
    exact importLocal_lines hnames h line
  · rw [if_neg ‹_›]
    cases h
    simp

lemma useLine_inj {path other : String} {alias? : Option String}
    (h : useLine path alias? = useLine other alias?) : path = other := by
  unfold useLine at h
  show toString path = toString other
  split at h <;> simpa using h

lemma writtenUses_eq_iff (hs : Imports s i) (hnames : i.names ≠ []) :
    writtenUses e.ctx i = wantedUses (crateRoot e.ctx) s ↔ NamesFile e.ctx s i := by
  obtain ⟨⟨name, alias?⟩, others, hcons⟩ := exists_cons_of_ne_nil hnames
  unfold NamesFile writtenUses
  cases hs with
  | modules =>
    subst hcons
    constructor
    · intro h
      dsimp only at h
      split at h
      · have hlength := congrArg (·.toList.length) (useLine_inj (List.cons.inj h).1)
        simp only [String.toList_append, length_append] at hlength
        have hcolons : (toString "::").toList.length = 2 := rfl
        omega
      · cases h
    · rintro ⟨⟨_, _, _, h⟩, -⟩
      cases h
  | @items module names line =>
    subst hcons
    dsimp only [wantedUses]
    by_cases hlocal : Text.before (module.getD "") "." ∈ e.ctx.localModules
    · rw [if_pos (contains_iff_mem.2 hlocal)]
      refine ⟨fun h => ⟨⟨_, _, _, rfl⟩, hlocal, ?_⟩, fun h => by rw [h.2.2]⟩
      show toString (Text.before _ _) = toString (fileName _)
      simpa using useLine_inj (List.cons.inj h).1
    · rw [if_neg fun h => hlocal (contains_iff_mem.1 h)]
      refine ⟨fun h => ?_, fun h => absurd h.2.1 hlocal⟩
      cases h

/-- An import that no library answers adds its lines to those of the local imports. They name what
the statement imports exactly if it imports items of a local module that is found under the first
part of its name; an import of modules never does. -/
theorem localUses_wanted_iff (hs : Imports s i) (hfree : IsFree e i) (hnames : i.names ≠ [])
    (hrun : e.run (processImport i) = (.ok (), e')) :
    (∀ lines, Lower.item lines s = return some (.imported i)) ∧
    (∀ line, line ∈ localImportLines e'.ctx ↔
      line ∈ localImportLines e.ctx ∨ line ∈ writtenUses e.ctx i) ∧
    (writtenUses e.ctx i = wantedUses (crateRoot e.ctx) s ↔ NamesFile e.ctx s i) :=
  ⟨fun lines => by cases hs <;> rfl, processImport_lines hfree hnames hrun,
    writtenUses_eq_iff hs hnames⟩

def knowing (module : String) : Emitter :=
  .start {} [module]

theorem localUses_wanted_user :
    "use crate::models::User as U;" ∈ localImportLines ((knowing "models").run (processImport
      { module := "models", names := [("User", some "U")], line := some 1 })).2.ctx := by
  obtain ⟨-, hlines, -⟩ := localUses_wanted_iff (e := knowing "models")
    (@Imports.items (some "models") [("User", some "U")] 1) ⟨by decide, rfl⟩ (by simp) rfl
  exact (hlines _).2 (.inr (by decide))

theorem localUses_doubled_models : localImportLines ((knowing "models").run
    (processImport { module := "models", names := [("models", none)], line := some 1 })).2.ctx =
      ["use crate::models::models;"] := by
  decide

end Oxidize.Emit
