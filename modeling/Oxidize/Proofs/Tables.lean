import Mathlib.Data.List.Nodup
import Oxidize.Table

/-!
# Keys and entries of tables

What writing to a table does to its keys: a key that is there stays in its place, another one comes
last, and no key stands twice.
-/

namespace Oxidize.Table

open List

variable {α : Type} {t u : Table α} {key other : String} {value : α}

lemma keys_set (t : Table α) (key : String) (value : α) :
    (t.set key value).keys = if key ∈ t.keys then t.keys else t.keys ++ [key] := by
  induction t with
  | nil => simp [set, keys]
  | cons entry t ih =>
    obtain ⟨k, v⟩ := entry
    have hkeys : keys ((k, v) :: t) = k :: keys t := rfl
    rw [set, hkeys]
    by_cases hk : k = key
    · simp [hk, keys]
    · have hcons : keys ((k, v) :: set t key value) = k :: keys (set t key value) := rfl
      rw [if_neg (by simpa using hk), hcons, ih]
      by_cases hmem : key ∈ keys t
      · simp [hmem]
      · simp [hmem, Ne.symm hk]

lemma mem_keys_set : other ∈ (t.set key value).keys ↔ other = key ∨ other ∈ t.keys := by
  rw [keys_set]
  split
  · rename_i hkey
    constructor
    · exact Or.inr
    · rintro (rfl | h)
      · exact hkey
      · exact h
  · rw [mem_append, mem_singleton, or_comm]

lemma mem_keys_update : key ∈ (t.update u).keys ↔ key ∈ t.keys ∨ key ∈ u.keys := by
  induction u generalizing t with
  | nil => simp [update, keys]
  | cons entry u ih =>
    have hkeys : keys (entry :: u) = entry.1 :: keys u := rfl
    have hstep : t.update (entry :: u) = (t.set entry.1 entry.2).update u := rfl
    rw [hstep, ih, mem_keys_set, hkeys, mem_cons]
    tauto

lemma nodup_keys_set (h : t.keys.Nodup) (key : String) (value : α) :
    (t.set key value).keys.Nodup := by
  rw [keys_set]
  split
  · exact h
  · rename_i hkey
    simpa using h.concat hkey

lemma mem_of_mem_set {entry : String × α} (h : entry ∈ t.set key value) :
    entry = (key, value) ∨ entry ∈ t := by
  induction t with
  | nil =>
    left
    simpa [set] using h
  | cons first t ih =>
    obtain ⟨k, v⟩ := first
    rw [set] at h
    by_cases hk : k = key
    · rw [if_pos (by simpa using hk), mem_cons] at h
      rcases h with rfl | h
      · left
        rw [hk]
      · exact .inr (mem_cons_of_mem _ h)
    · rw [if_neg (by simpa using hk), mem_cons] at h
      rcases h with rfl | h
      · exact .inr (by simp)
      · exact (ih h).imp_right (mem_cons_of_mem _)

lemma mem_of_mem_update {entry : String × α} (h : entry ∈ t.update u) : entry ∈ t ∨ entry ∈ u := by
  induction u generalizing t with
  | nil => exact .inl h
  | cons first u ih =>
    have hstep : t.update (first :: u) = (t.set first.1 first.2).update u := rfl
    rw [hstep] at h
    rcases ih h with h | h
    · rcases mem_of_mem_set h with rfl | h
      · exact .inr (by simp)
      · exact .inl h
    · exact .inr (mem_cons_of_mem _ h)

lemma nodup_keys_update (h : t.keys.Nodup) (u : Table α) : (t.update u).keys.Nodup := by
  induction u generalizing t with
  | nil => exact h
  | cons entry u ih => exact ih (nodup_keys_set h entry.1 entry.2)

lemma mem_of_get? (h : t.get? key = some value) : (key, value) ∈ t := by
  obtain ⟨before, after, rfl, _⟩ := lookup_eq_some_iff.1 h
  simp

lemma get?_of_mem (hkeys : t.keys.Nodup) (h : (key, value) ∈ t) : t.get? key = some value := by
  induction t with
  | nil => cases h
  | cons entry t ih =>
    have hcons : keys (entry :: t) = entry.1 :: keys t := rfl
    rw [hcons, nodup_cons] at hkeys
    unfold get?
    rcases mem_cons.1 h with rfl | h
    · simp
    · have hne : key ≠ entry.1 := by
        rintro rfl
        exact hkeys.1 (mem_map.2 ⟨_, h, rfl⟩)
      rw [lookup_cons, beq_eq_false_iff_ne.2 hne]
      exact ih hkeys.2 h

lemma has_iff : t.has key = true ↔ key ∈ t.keys := by
  induction t with
  | nil => simp [has, keys]
  | cons entry t ih =>
    unfold has at ih ⊢
    have hcons : keys (entry :: t) = entry.1 :: keys t := rfl
    rw [lookup_cons, hcons, mem_cons]
    by_cases hkey : key = entry.1
    · simp [hkey]
    · rw [beq_eq_false_iff_ne.2 hkey]
      simp [hkey, ih]

end Oxidize.Table
