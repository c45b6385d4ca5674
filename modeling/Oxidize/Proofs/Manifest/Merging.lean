import Oxidize.Proofs.Manifest.Coverage

/-!
# Features added to a package's own entry

A package that has an entry for its own crate gives this entry with the requested features added.
It stands so among the gathered dependencies unless a later package gives another one under the same
name (`own_entry_merged_iff`).
-/

namespace Oxidize

open Table (get? set ofList)

lemma Table.get?_update {t u : Table Value} {key : String} :
    (t.update u).get? key = ((ofList u).get? key).or (t.get? key) := by
  have hset (t : Table Value) (entry : String × Value) :
      (t.set entry.1 entry.2).get? key = (get? [entry] key).or (t.get? key) := by
    by_cases hkey : key = entry.1
    · rw [hkey, get?_set_self, get?, List.lookup_cons, beq_self_eq_true]
      rfl
    · rw [get?_set_of_ne _ _ hkey, get?, get?, List.lookup_cons, beq_eq_false_iff_ne.2 hkey]
      rfl
  induction u generalizing t with
  | nil => rfl
  | cons entry u ih =>
    show ((t.set entry.1 entry.2).update u).get? key =
      ((Table.update [entry] u).get? key).or (t.get? key)
    rw [ih, ih, hset, Option.or_assoc]

namespace Features

/-- What the packages give under the name: the last of them that has an entry for it decides. -/
def given (asked : Value) (name : String) (packages : List Package) : Option Value :=
  packages.reverse.findSome? fun p =>
    (dependenciesOf asked p).toOption.bind fun entries => (ofList entries).get? name

/-- The entry has these fields, and its features are those that were there with the requested ones
behind them that were missing. -/
def Merges (fields : Table Value) (there requested : List Value) (entry : Value) : Prop :=
  ∃ spec : Table Value, entry = .table spec ∧
    (∀ key, key ≠ "features" → spec.get? key = fields.get? key) ∧
    (spec.get? "features").getD (.list []) =
      .list (there ++ (requested.filter (!there.contains ·)).eraseDups)

/-- The package has an entry for its own crate with these fields and features, and these features
are requested for it: those asked for under one of its names, else its default ones. -/
structure Owns (asked : Table Value) (p : Package) (crate : String) (fields : Table Value)
    (there requested : List Value) : Prop where
  name : p.name = .str crate
  entry : ∃ (ident : String) (dependencies : Table Value), p.crate = .str ident ∧
    p.dependencies = .table dependencies ∧
    (dependencies.get? crate).or (dependencies.get? ident) = some (.table fields) ∧
    ((asked.get? crate).or (asked.get? ident)).getD p.defaultFeatures = .list requested
  features : (fields.get? "features").getD (.list []) = .list there

variable {asked : Table Value} {p : Package} {name : String} {fields all : Table Value}
  {there requested : List Value}

lemma get?_gathered (name : String) {asked : Value} {packages : List Package} {first : Table Value}
    (h : packages.foldlM (fun deps p => return deps.update (← dependenciesOf asked p)) first =
      .ok all) : all.get? name = (given asked name packages).or (first.get? name) := by
  induction packages generalizing first with
  | nil =>
    cases h
    rfl
  | cons p packages ih =>
    rw [List.foldlM_cons] at h
    obtain ⟨second, hsecond, h⟩ := exists_of_bind_ok h
    obtain ⟨entries, hentries, hsecond⟩ := exists_of_bind_ok hsecond
    cases hsecond
    rw [ih h, Table.get?_update, given, given, List.reverse_cons, List.findSome?_append,
      Option.or_assoc]
    simp [hentries, Except.toOption]

lemma merged_eq (there more : List Value) :
    merged there more = there ++ (more.filter (!there.contains ·)).eraseDups := by
  unfold merged
  induction more generalizing there with
  | nil => simp
  | cons f more ih =>
    rw [List.foldl_cons, ih, List.filter_cons]
    cases hf : there.contains f with
    | true => rfl
    | false =>
      have hmore : more.filter (!(there ++ [f]).contains ·) =
          (more.filter (!there.contains ·)).filter (!· == f) := by
        rw [List.filter_filter]
        refine List.filter_congr fun g _ => ?_
        simp [Bool.and_comm, beq_eq_decide]
      simp only [Bool.false_eq_true, if_false, hmore, Bool.not_false, if_true, List.eraseDups_cons,
        List.append_assoc, List.singleton_append]

lemma merges_withFeatures (requested : List Value)
    (hthere : (fields.get? "features").getD (.list []) = .list there) :
    ∃ entry, withFeatures (.table fields) (.list requested) = .ok entry ∧
      Merges fields there requested entry := by
  unfold withFeatures
  cases requested with
  | nil => exact ⟨_, rfl, fields, rfl, fun _ _ => rfl, by simp [hthere]⟩
  | cons f more =>
    refine ⟨_, by simp only [hthere]; rfl, _, rfl, fun key hkey => ?_, ?_⟩
    · exact Table.get?_set_of_ne _ _ hkey
    · rw [Table.get?_set_self, Option.getD_some, merged_eq]

lemma Owns.dependenciesOf_eq (h : Owns asked p name fields there requested) :
    ∃ entry, dependenciesOf (.table asked) p = .ok [(name, entry)] ∧
      Merges fields there requested entry := by
  obtain ⟨ident, dependencies, hident, hdependencies, hown, hrequested⟩ := h.entry
  obtain ⟨entry, hentry, hmerges⟩ := merges_withFeatures requested h.features
  have hbase : ownDependency? dependencies p = .ok (some (.table fields)) := by
    rw [ownDependency?_eq h.name hident]
    rcases Option.or_eq_some_iff.1 hown with hown | ⟨hnone, hown⟩ <;> simp [*]
  have hasked : forPackage (.table asked) p = .ok (.list requested) := by
    rw [forPackage_eq h.name hident]
    cases hfound : (asked.get? name).or (asked.get? ident) with
    | some features =>
      rw [hfound] at hrequested
      exact congrArg Except.ok hrequested
    | none =>
      rw [hfound] at hrequested
      rw [show p.defaultFeatures = .list requested from hrequested]
      cases requested <;> rfl
  refine ⟨entry, ?_, hmerges⟩
  unfold dependenciesOf
  rw [hdependencies]
  dsimp only
  rw [hbase, hasked, h.name]
  simp only [Value.keyText, ok_bind, Option.getD_some, hentry]
  rfl

end Features

open Features in
/-- The dependencies hold the package's own entry with the features added exactly when those of
every package can be read and the packages behind it give no other entry under its name. -/
theorem own_entry_merged_iff {r : Registry} {crates? : Option (List String)} {asked : Table Value}
    {before after : List Package} {p : Package} {name : String} {fields : Table Value}
    {there requested : List Value} (hselected : r.selected crates? = before ++ p :: after)
    (hown : Owns asked p name fields there requested) :
    (∃ all entry, r.dependenciesWith (.table asked) crates? = .ok all ∧
        all.get? name = some entry ∧ Merges fields there requested entry) ↔
      (∀ q ∈ r.selected crates?, ∃ entries, dependenciesOf (.table asked) q = .ok entries) ∧
        ∀ entry, given (.table asked) name after = some entry →
          Merges fields there requested entry := by
  obtain ⟨own, hentry, hmerges⟩ := hown.dependenciesOf_eq
  have hgiven {all : Table Value} (hall : r.dependenciesWith (.table asked) crates? = .ok all) :
      all.get? name = (given (.table asked) name after).or (some own) := by
    have hgathered := get?_gathered name hall
    rw [hselected, given, List.reverse_append, List.reverse_cons, List.append_assoc,
      List.findSome?_append, List.singleton_append, List.findSome?_cons, hentry,
      Option.or_assoc] at hgathered
    simpa [ofList, Except.toOption, given, Table.update, get?, Table.set] using hgathered
  have hdecides : (∃ entry, (given (.table asked) name after).or (some own) = some entry ∧
        Merges fields there requested entry) ↔
      ∀ entry, given (.table asked) name after = some entry →
        Merges fields there requested entry := by
    cases given (.table asked) name after with
    | none => simpa using hmerges
    | some entry => simp
  rw [← hdecides]
  constructor
  · rintro ⟨all, entry, hall, hfound, hmerged⟩
    exact ⟨(Registry.keys_gathered hall).1, entry, hgiven hall ▸ hfound, hmerged⟩
  · rintro ⟨hread, entry, hfound, hmerged⟩
    obtain ⟨all, hall⟩ := Registry.exists_gathered hread []
    exact ⟨all, entry, hall, (hgiven hall).trans hfound, hmerged⟩

open Features in
theorem own_entry_merged_wired :
    ∃ all entry, wiredRegistry.dependenciesWith wiredFeatures none = .ok all ∧
      all.get? "native-tls" = some entry ∧
      Merges [("version", .str "0.2")] [] [.str "vendored"] entry := by
  have hselected : wiredRegistry.selected none = [] ++ tlsPackage :: [wirePackage, hashPackage] := rfl
  refine (own_entry_merged_iff hselected ⟨rfl, ⟨_, _, rfl, rfl, rfl, rfl⟩, rfl⟩).2 ⟨?_, ?_⟩
  · rw [hselected]
    simp only [List.nil_append, List.forall_mem_cons]
    exact ⟨⟨_, rfl⟩, ⟨_, rfl⟩, ⟨_, rfl⟩, by simp⟩
  · rintro entry ⟨⟩

/-- A package that names a version of another one's crate. -/
def pinningPackage : Package :=
  { wirePackage with dependencies := .table [("native-tls", .str "0.1")] }

theorem own_entry_lost_pinned :
    Features.Owns [] tlsPackage "native-tls" [("version", .str "0.2")] [] [.str "alpn"] ∧
      Registry.dependenciesWith { packages := [("native-tls", tlsPackage), ("wire", pinningPackage)] }
        (.table []) none = .ok [("native-tls", .str "0.1")] :=
  ⟨⟨rfl, ⟨_, _, rfl, rfl, rfl, rfl⟩, rfl⟩, rfl⟩

end Oxidize
