/-!
# Tables and sets of names

A table is a dictionary that keeps its keys in the order in which they first came.
-/

namespace Oxidize

/-- A dictionary with text keys that keeps the order of first insertion. -/
abbrev Table (α : Type) := List (String × α)

namespace Table

variable {α : Type}

def get? (t : Table α) (key : String) : Option α :=
  t.lookup key

def has (t : Table α) (key : String) : Bool :=
  (t.lookup key).isSome

/-- Write `value` at `key`: in place if the key is there, else at the end. -/
def set : Table α → String → α → Table α
  | [], key, value => [(key, value)]
  | (k, v) :: rest, key, value =>
    if k == key then (k, value) :: rest else (k, v) :: set rest key value

def update (t u : Table α) : Table α :=
  u.foldl (fun acc entry => set acc entry.1 entry.2) t

/-- The table with these entries, a later one winning over an earlier one with its key. -/
def ofList (entries : List (String × α)) : Table α :=
  update [] entries

def keys (t : Table α) : List String :=
  t.map Prod.fst

def values (t : Table α) : List α :=
  t.map Prod.snd

theorem get?_set_self (t : Table α) (key : String) (value : α) :
    (t.set key value).get? key = some value := by
  induction t with
  | nil => simp [set, get?]
  | cons entry rest ih =>
    obtain ⟨k, v⟩ := entry
    by_cases h : k = key
    · simp [set, get?, h]
    · have h' : (key == k) = false := by simp [Ne.symm h]
      simp only [get?] at ih
      simp [set, get?, h, List.lookup_cons, h', ih]

theorem get?_set_of_ne (t : Table α) {key other : String} (value : α) (h : other ≠ key) :
    (t.set key value).get? other = t.get? other := by
  induction t with
  | nil =>
    have h' : (other == key) = false := by simp [h]
    simp [set, get?, List.lookup_cons, h']
  | cons entry rest ih =>
    obtain ⟨k, v⟩ := entry
    simp only [get?] at ih
    by_cases hk : k = key
    · subst hk
      have h' : (other == k) = false := by simp [h]
      simp [set, get?, List.lookup_cons, h']
    · by_cases ho : other = k
      · subst ho
        simp [set, get?, hk]
      · have h' : (other == k) = false := by simp [ho]
        simp [set, get?, List.lookup_cons, hk, h', ih]

theorem mem_values_of_get? {t : Table α} {key : String} {value : α} (h : t.get? key = some value) :
    value ∈ t.values := by
  induction t with
  | nil => simp [get?] at h
  | cons entry rest ih =>
    obtain ⟨k, v⟩ := entry
    rw [get?, List.lookup_cons] at h
    cases hk : key == k with
    | true =>
      rw [hk] at h
      obtain rfl : v = value := by simpa using h
      simp [values]
    | false =>
      rw [hk] at h
      exact List.mem_cons_of_mem _ (ih h)

theorem mem_values_set {t : Table α} {key : String} {value v : α}
    (h : v ∈ (t.set key value).values) : v = value ∨ v ∈ t.values := by
  induction t with
  | nil =>
    left
    simpa [set, values] using h
  | cons entry rest ih =>
    rw [set] at h
    split at h
    · rcases List.mem_cons.1 h with rfl | h
      · exact .inl rfl
      · exact .inr (List.mem_cons_of_mem _ h)
    · rcases List.mem_cons.1 h with rfl | h
      · exact .inr (by simp [values])
      · exact (ih h).imp_right (List.mem_cons_of_mem _)

theorem set_of_not_mem {t : Table α} {key : String} (h : key ∉ t.keys) (value : α) :
    t.set key value = t ++ [(key, value)] := by
  induction t with
  | nil => rfl
  | cons entry rest ih =>
    obtain ⟨hne, hrest⟩ : ¬ key = entry.1 ∧ key ∉ keys rest := by simpa [keys] using h
    have hne' : (entry.1 == key) = false := by simp [Ne.symm hne]
    rw [set, hne', ih hrest]
    rfl

theorem update_of_nodup {t u : Table α} (h : (keys (t ++ u)).Nodup) : t.update u = t ++ u := by
  induction u generalizing t with
  | nil => simp [update]
  | cons entry rest ih =>
    have happend : t ++ entry :: rest = (t ++ [entry]) ++ rest := by simp
    have hnew : entry.1 ∉ t.keys := by
      simp only [keys, List.map_append, List.map_cons, List.nodup_append, List.mem_cons] at h
      intro hmem
      exact h.2.2 entry.1 hmem entry.1 (.inl rfl) rfl
    have hstep : t.update (entry :: rest) = (t.set entry.1 entry.2).update rest := rfl
    rw [hstep, set_of_not_mem hnew, happend]
    exact ih (happend ▸ h)

theorem ofList_of_nodup {entries : Table α} (h : entries.keys.Nodup) : ofList entries = entries :=
  update_of_nodup h

end Table

abbrev NameSet := List String

namespace NameSet

def add (s : NameSet) (name : String) : NameSet :=
  if s.contains name then s else name :: s

def addAll (s : NameSet) (names : List String) : NameSet :=
  names.foldl add s

def discard (s : NameSet) (name : String) : NameSet :=
  s.filter (· != name)

def ofList (names : List String) : NameSet :=
  addAll [] names

def sorted (s : NameSet) : List String :=
  s.mergeSort fun a b => decide (a ≤ b)

theorem mem_add {s : NameSet} {name x : String} : x ∈ s.add name ↔ x = name ∨ x ∈ s := by
  unfold add
  split
  · rename_i h
    have hm : name ∈ s := by simpa using h
    constructor
    · exact Or.inr
    · rintro (rfl | hx)
      · exact hm
      · exact hx
  · simp

theorem mem_addAll {s : NameSet} {names : List String} {x : String} :
    x ∈ s.addAll names ↔ x ∈ names ∨ x ∈ s := by
  unfold addAll
  induction names generalizing s with
  | nil => simp
  | cons name names ih =>
    rw [List.foldl_cons, ih, mem_add, List.mem_cons]
    constructor
    · rintro (hx | rfl | hx)
      · exact .inl (.inr hx)
      · exact .inl (.inl rfl)
      · exact .inr hx
    · rintro ((rfl | hx) | hx)
      · exact .inr (.inl rfl)
      · exact .inl hx
      · exact .inr (.inr hx)

theorem mem_ofList {names : List String} {x : String} : x ∈ ofList names ↔ x ∈ names := by
  simp [ofList, mem_addAll]

theorem nodup_add {s : NameSet} (hs : s.Nodup) (name : String) : (s.add name).Nodup := by
  unfold add
  split
  · exact hs
  · rename_i h
    exact List.nodup_cons.2 ⟨by simpa using h, hs⟩

theorem nodup_addAll {s : NameSet} (hs : s.Nodup) (names : List String) :
    (s.addAll names).Nodup := by
  unfold addAll
  induction names generalizing s with
  | nil => exact hs
  | cons name names ih => exact ih (nodup_add hs name)

theorem nodup_ofList (names : List String) : (ofList names).Nodup :=
  nodup_addAll List.nodup_nil names

theorem mem_sorted {s : NameSet} {x : String} : x ∈ s.sorted ↔ x ∈ s :=
  List.mem_mergeSort

theorem nodup_sorted {s : NameSet} (hs : s.Nodup) : s.sorted.Nodup :=
  (List.mergeSort_perm s _).nodup_iff.2 hs

theorem mem_discard {s : NameSet} {name x : String} :
    x ∈ s.discard name ↔ x ∈ s ∧ x ≠ name := by
  simp [discard]

end NameSet

end Oxidize
