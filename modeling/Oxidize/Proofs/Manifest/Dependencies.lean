import Oxidize.Manifest.Basic
import Oxidize.Proofs.Tables

/-!
# The table of dependencies

The dependencies of a project are gathered in one table, from sources with different rules: some
replace what is there, some only add what is not, and some change an entry that is there. Whatever
the rule, each dependency stands under its own name and once, so that the written list is strictly
ordered by name.
-/

namespace Oxidize

open Table List

variable {deps : Dependencies} {name : String}

/-! ## Lines -/

namespace Manifest

/-- The section of dependencies of the manifest has these entries, one on a line and in this
order, and nothing else. -/
def Lists (text : String) (entries : Table String) : Prop :=
  ∃ before after : List String, text = Text.join "\n" (before ++ "[dependencies]"
      :: entries.map (fun entry => entry.1 ++ " = " ++ entry.2) ++ "" :: after) ∧
    "[dependencies]" ∉ before ∧ "[dependencies]" ∉ after ∧
    ∃ next ∈ after.head?, Text.startsWith next "[" = true

/-- The dependencies in the order in which they are listed. -/
abbrev sorted (deps : Dependencies) : List Dependency :=
  deps.values.mergeSort fun a b => decide (a.name ≤ b.name)

/-! ## Each dependency under its name -/

structure Keyed (deps : Dependencies) : Prop where
  nodup : deps.keys.Nodup
  named : ∀ entry ∈ deps, entry.2.name = entry.1

namespace Keyed

lemma nil : Keyed [] :=
  ⟨nodup_nil, nofun⟩

lemma set (h : Keyed deps) {d : Dependency} (hd : d.name = name) : Keyed (deps.set name d) := by
  refine ⟨nodup_keys_set h.nodup name d, ?_⟩
  intro entry hentry
  rcases mem_of_mem_set hentry with rfl | hentry
  · exact hd
  · exact h.named entry hentry

lemma put (h : Keyed deps) (more : List Dependency) : Keyed (put deps more) := by
  unfold Manifest.put update
  induction more generalizing deps with
  | nil => exact h
  | cons d more ih => exact ih (h.set rfl)

lemma putNew (h : Keyed deps) (specs : Table Value) : Keyed (putNew deps specs) := by
  unfold Manifest.putNew
  induction specs generalizing deps with
  | nil => exact h
  | cons entry specs ih =>
    obtain ⟨name, spec⟩ := entry
    have hname : (Dependency.ofSpec name spec).name = name := by cases spec <;> rfl
    rw [foldl_cons]
    apply ih
    dsimp only
    split
    · exact h
    · exact h.set hname

lemma adjust (h : Keyed deps) (name : String) {f : Dependency → Dependency}
    (hf : ∀ d, (f d).name = d.name) : Keyed (adjust deps name f) := by
  unfold Manifest.adjust
  split
  · rename_i d hd
    have hname : d.name = name := h.named _ (mem_of_get? hd)
    exact h.set ((hf d).trans hname)
  · exact h

lemma withAttributes (h : Keyed deps) (modules : List IR.Module) :
    Keyed (withAttributes deps modules) := by
  have hif {b : Bool} {more fewer : Dependencies} (hmore : Keyed more) (hfewer : Keyed fewer) :
      Keyed (if b then more else fewer) := by
    cases b with
    | true => exact hmore
    | false => exact hfewer
  unfold Manifest.withAttributes
  extract_lets traits routes derived answering parsing
  have hderived : Keyed derived := hif (h.put _) h
  have hanswering : Keyed answering := hif (hderived.put _) hderived
  have hparsing : Keyed parsing := hif (hanswering.adjust "clap" fun _ => rfl) hanswering
  exact hif (hparsing.adjust "redis" fun _ => rfl) hparsing

lemma names_values (h : Keyed deps) : deps.values.map Dependency.name = deps.keys := by
  unfold values Table.keys
  rw [map_map]
  exact map_congr_left h.named

lemma perm_sorted (h : Keyed deps) : ((sorted deps).map Dependency.name).Perm deps.keys := by
  rw [← h.names_values]
  exact (mergeSort_perm _ _).map _

lemma pairwise_sorted (h : Keyed deps) : ((sorted deps).map Dependency.name).Pairwise (· < ·) := by
  have hle : (sorted deps).Pairwise fun a b => decide (a.name ≤ b.name) := by
    apply pairwise_mergeSort
    · intro a b c hab hbc
      simp only [decide_eq_true_eq] at hab hbc ⊢
      exact String.le_trans hab hbc
    · intro a b
      simpa using String.le_total a.name b.name
  have hnodup : ((sorted deps).map Dependency.name).Nodup := h.perm_sorted.nodup_iff.2 h.nodup
  have hsorted := pairwise_map.2 (hle.imp fun hab => of_decide_eq_true hab)
  refine (hsorted.and hnodup).imp fun {a b} hab => ?_
  exact String.not_le.1 fun hba => hab.2 (String.le_antisymm hab.1 hba)

lemma mem_keys_sorted (h : Keyed deps) (name : String) :
    name ∈ keys ((sorted deps).map fun d => (d.name, d.demand)) ↔ name ∈ deps.keys := by
  unfold Table.keys
  rw [map_map]
  exact h.perm_sorted.mem_iff

end Keyed

/-! ## Where names come from -/

lemma mem_keys_put {more : List Dependency} :
    name ∈ (put deps more).keys ↔ name ∈ deps.keys ∨ name ∈ more.map Dependency.name := by
  unfold put
  rw [mem_keys_update]
  simp [Table.keys]

lemma mem_keys_putNew {specs : Table Value} :
    name ∈ (putNew deps specs).keys ↔ name ∈ deps.keys ∨ name ∈ specs.keys := by
  unfold putNew
  induction specs generalizing deps with
  | nil => simp [Table.keys]
  | cons spec specs ih =>
    have hkeys : keys (spec :: specs) = spec.1 :: keys specs := rfl
    have hstep : name ∈ (if has deps spec.1 then deps
        else set deps spec.1 (.ofSpec spec.1 spec.2)).keys ↔
        name = spec.1 ∨ name ∈ deps.keys := by
      split
      · rename_i hhas
        constructor
        · exact Or.inr
        · rintro (rfl | hname)
          · exact has_iff.1 hhas
          · exact hname
      · exact mem_keys_set
    rw [foldl_cons, ih, hstep, hkeys, mem_cons]
    tauto

lemma keys_adjust (deps : Dependencies) (name : String) (f : Dependency → Dependency) :
    (adjust deps name f).keys = deps.keys := by
  unfold adjust
  split
  · rename_i d hd
    have hmem : name ∈ deps.keys := mem_map.2 ⟨_, mem_of_get? hd, rfl⟩
    rw [keys_set, if_pos hmem]
  · rfl

/-- The names that attributes of the modules add. -/
def attributed (modules : List IR.Module) : List String :=
  let traits := (modules.flatMap itemAttributes).flatMap Emit.derivedTraits
  (if traits.contains "Serialize" || traits.contains "Deserialize" then ["serde"] else [])
    ++ if (modules.flatMap Emit.moduleAttributes).any isRoute then ["actix-web"] else []

lemma mem_keys_withAttributes {modules : List IR.Module} :
    name ∈ (withAttributes deps modules).keys ↔ name ∈ deps.keys ∨ name ∈ attributed modules := by
  have hadjust (b : Bool) (deps : Dependencies) (crate : String) (f : Dependency → Dependency) :
      (if b then adjust deps crate f else deps).keys = deps.keys := by
    cases b with
    | true => exact keys_adjust deps crate f
    | false => rfl
  have hput (deps : Dependencies) (n : String) (d : Dependency) :
      n ∈ (put deps [d]).keys ↔ n ∈ deps.keys ∨ n = d.name := by simp [mem_keys_put]
  unfold withAttributes attributed
  dsimp only
  rw [hadjust, hadjust]
  -- an entry that is there already is not put in again
  grind [has_iff]

end Manifest

end Oxidize
