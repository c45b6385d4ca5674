import Mathlib.Tactic.Lemma
import Oxidize.Stub.Package

/-!
# The mapping file of a crate that hands on others

The lines of a mapping file are entries and lines outside of them. The mapping file of a crate that
hands on others holds the entries of their mapping files, in order and each rewritten line by line,
and nothing else of these files (`mappingFile_copies_entries`).
-/

namespace Oxidize.Stub.Reexport

open List

/-- An entry is a line that opens it, and lines after it that open neither an entry nor another part
of the file. -/
def IsEntry (lines : List String) : Prop :=
  ∃ first rest, lines = first :: rest ∧ opensEntry first = true ∧
    ∀ line ∈ rest, opensEntry line = false ∧ opensPart line = false

/-- The lines are cut into these entries and lines outside of them. An entry goes on up to the next
one, to another part or to the end. -/
inductive Cut : List String → List (List String) → Prop
  | outside {lines : List String} (h : ∀ line ∈ lines, opensEntry line = false) : Cut lines []
  | entry {lead lines rest : List String} {entries : List (List String)}
    (hlead : ∀ line ∈ lead, opensEntry line = false) (hlines : IsEntry lines)
    (hrest : ∀ line ∈ rest.head?, (opensEntry line || opensPart line) = true)
    (h : Cut rest entries) : Cut (lead ++ lines ++ rest) (lines :: entries)

variable {line : String} {lines rest : List String} {entries : List (List String)}

lemma Cut.cons (hline : opensEntry line = false) (h : Cut lines entries) :
    Cut (line :: lines) entries := by
  cases h with
  | outside h => exact .outside (forall_mem_cons.2 ⟨hline, h⟩)
  | entry hlead hlines hrest h => exact .entry (forall_mem_cons.2 ⟨hline, hlead⟩) hlines hrest h

lemma Cut.first (hlines : IsEntry lines)
    (hrest : ∀ line ∈ rest.head?, (opensEntry line || opensPart line) = true)
    (h : Cut rest entries) : Cut (lines ++ rest) (lines :: entries) := by
  have hcut := Cut.entry (forall_mem_nil _) hlines hrest h
  exact hcut

lemma isEntry_singleton (h : opensEntry line = true) : IsEntry [line] :=
  ⟨line, [], rfl, h, forall_mem_nil _⟩

lemma IsEntry.concat (h : IsEntry lines) (hentry : opensEntry line = false)
    (hpart : opensPart line = false) : IsEntry (lines ++ [line]) := by
  obtain ⟨first, rest, rfl, hfirst, hrest⟩ := h
  refine ⟨first, rest ++ [line], rfl, hfirst, forall_mem_append.2 ⟨hrest, ?_⟩⟩
  simp [hentry, hpart]

/-- The blocks that are read are the entries, also if one of them is open already. -/
lemma cut_blocks (rest : List String) : Cut rest (blocks none rest) ∧
    ∀ lines, IsEntry lines → Cut (lines ++ rest) (blocks (some lines) rest) := by
  induction rest with
  | nil =>
    have hnone : Cut [] [] := .outside (forall_mem_nil _)
    exact ⟨hnone, fun lines h => .first h (by simp) hnone⟩
  | cons line rest ih =>
    obtain ⟨hclosed, hopen⟩ := ih
    cases hentry : opensEntry line with
    | true =>
      have hnext := hopen [line] (isEntry_singleton hentry)
      refine ⟨?_, fun lines h => ?_⟩
      · rw [blocks, if_pos hentry]
        exact hnext
      · rw [blocks, if_pos hentry]
        exact .first h (by simp [hentry]) hnext
    | false =>
      refine ⟨?_, fun lines h => ?_⟩
      · rw [blocks, hentry]
        exact hclosed.cons hentry
      · rw [blocks, hentry]
        cases hpart : opensPart line with
        | true => exact .first h (by simp [hpart]) (hclosed.cons hentry)
        | false => simpa using hopen _ (h.concat hentry hpart)

/-- The mapping file holds after its head the entries of each mapping file that is there, in order,
each rewritten line by line and followed by an empty line. -/
theorem mappingFile_copies_entries (crate version : String)
    (texts : Table (Option String)) :
    ∃ entriesOf : String → List (List String),
      (∀ text, Cut (Text.splitOn text "\n") (entriesOf text)) ∧
      mappingFile crate version texts = Text.join "\n" (packageLines crate crate version ++
        ["# This crate re-exports from other crates",
         "# Source crates: " ++ Text.commas (texts.map Prod.fst), ""] ++
        dependencyLines crate version ++
        texts.flatMap fun (source, text?) => text?.toList.flatMap fun text =>
          (entriesOf text).flatMap fun entry => entry.map (renameLine source crate) ++ [""]) := by
  refine ⟨fun text => blocks none (Text.splitOn text "\n"), fun text => (cut_blocks _).1, ?_⟩
  have hcopied (source : String) (text? : Option String) :
      (text?.map (takenOver source crate)).getD [] =
        text?.toList.flatMap (takenOver source crate) := by
    cases text? <;> simp
  simp only [mappingFile, hcopied]
  rfl

end Oxidize.Stub.Reexport
