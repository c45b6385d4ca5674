import Mathlib.Data.List.DropRight
import Oxidize.Lower.Item

/-!
# Attributes above a definition

The attributes of a definition are those among the blank lines, comments and decorators directly
above it. Every other line ends this run, so no line gives an attribute to two definitions
(`attributes_of_run`).
-/

namespace Oxidize.Lower

open List

/-- The lines above a line end in `run`, the longest run of preamble, and `front` comes before. -/
structure RunAbove (lines : List String) (line : Nat) (front run : List String) : Prop where
  above : lines.take (line - 1) = front ++ run
  preamble : ∀ l ∈ run, isPreamble (Text.trim l) = true
  longest : ∀ hne : front ≠ [], ¬ isPreamble (Text.trim (front.getLast hne)) = true

lemma exists_runAbove (lines : List String) (line : Nat) : ∃ front run,
    RunAbove lines line front run ∧
      attributesAbove (lines.take (line - 1)).reverse = run.filterMap (attribute? ∘ Text.trim) := by
  refine ⟨(lines.take (line - 1)).rdropWhile fun l => isPreamble (Text.trim l),
    (lines.take (line - 1)).rtakeWhile fun l => isPreamble (Text.trim l),
    ⟨rdropWhile_append_rtakeWhile.symm, fun l hl => ?_, fun hne => ?_⟩, ?_⟩
  · have hpreamble := mem_rtakeWhile_imp hl
    exact hpreamble
  · have hlast := rdropWhile_last_not _ _ hne
    exact hlast
  · rw [attributesAbove, takeWhile_map, filterMap_map, ← filterMap_reverse]
    rfl

lemma attributesAt?_eq {lines : List String} {line : Nat} (h : line ≤ lines.length) :
    attributesAt? lines line = some (attributesAbove (lines.take (line - 1)).reverse) := by
  rw [attributesAt?, if_neg (show ¬ lines.length < line - 1 by omega)]
  cases lines with
  | nil => simp [attributesAbove]
  | cons first rest => rfl

/-- A definition has the attributes of the preamble that ends above it, in the order of the text.
If line `n` is no preamble, the run above a later line begins behind it, so no line gives an
attribute to both. -/
theorem attributes_of_run (lines : List String) :
    (∀ line ≤ lines.length, ∃ front run, RunAbove lines line front run ∧
      attributesAt? lines line = some (run.filterMap (attribute? ∘ Text.trim))) ∧
    ∀ n m front run front' run', 0 < n → n < m → m ≤ lines.length →
      (∀ l ∈ lines[n - 1]?, ¬ isPreamble (Text.trim l) = true) →
      RunAbove lines n front run → RunAbove lines m front' run' →
      (front ++ run).length < front'.length := by
  constructor
  · intro line hline
    obtain ⟨front, run, hrun, hattributes⟩ := exists_runAbove lines line
    exact ⟨front, run, hrun, by rw [attributesAt?_eq hline, hattributes]⟩
  · intro n m front run front' run' hpos hnm hm hn hrun hrun'
    rw [← hrun.above, length_take]
    by_contra hbegins
    have hline : lines[n - 1]? = run'[n - 1 - front'.length]? := by
      rw [← getElem?_append_right (by omega), ← hrun'.above, getElem?_take,
        if_pos (by omega)]
    rw [getElem?_eq_getElem (by omega)] at hn hline
    exact hn _ rfl (hrun'.preamble _ (mem_of_getElem? hline.symm))

/-- A decorated function below a class with an attribute of its own. -/
theorem attributes_of_run_twoDefinitions :
    ∃ front run, RunAbove ["# #[a]", "class A:", "", "# #[b]", "@static", "def f():"] 6 front run ∧
      run.filterMap (attribute? ∘ Text.trim) = ["#[b]"] ∧ 1 < front.length := by
  have hlines := attributes_of_run ["# #[a]", "class A:", "", "# #[b]", "@static", "def f():"]
  obtain ⟨front, run, hrun, -⟩ := hlines.1 2 (by decide)
  obtain ⟨front', run', hrun', hattributes⟩ := hlines.1 6 (by decide)
  have hbehind := hlines.2 2 6 front run front' run' (by decide) (by decide) (by decide)
    (by decide) hrun hrun'
  rw [← hrun.above] at hbehind
  exact ⟨front', run', hrun', Option.some.inj (hattributes.symm.trans (by decide)), hbehind⟩

end Oxidize.Lower
