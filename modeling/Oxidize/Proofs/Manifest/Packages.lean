import Oxidize.Manifest.Basic
import Oxidize.Proofs.Package.Unimported
import Oxidize.Proofs.Tables

/-!
# Dependencies of the imported packages

A project takes in the packages that its modules import. Each of them gives the dependency on its
own crate, with the features that the project asks for, or all dependencies that it names instead;
it gives nothing that it does not mention, and it does give something unless one of its values has
another form than a manifest needs.
-/

namespace Oxidize

open List

variable {entries : Table Value} {p : Package}

/-! ## Packages under their names -/

namespace Registry

structure Indexed (r : Registry) : Prop where
  nodup : r.packages.keys.Nodup
  named : ∀ entry ∈ r.packages, entry.2.name.keyText = .ok entry.1

variable {r : Registry}

lemma indexed_of_ofPackages {packages : List Package} (hr : ofPackages packages = .ok r) :
    r.Indexed ∧ ∀ p ∈ r.packages.values, p ∈ packages := by
  unfold ofPackages at hr
  obtain ⟨entries, hentries, hr⟩ := exists_of_bind_ok hr
  cases hr
  obtain ⟨hvalues, hkeys⟩ := named_spec hentries
  have hmem : ∀ entry ∈ Table.ofList entries, entry ∈ entries := by
    intro entry hentry
    rcases Table.mem_of_mem_update hentry with h | h
    · cases h
    · exact h
  refine ⟨⟨Table.nodup_keys_update (t := []) nodup_nil entries, ?_⟩, ?_⟩
  · intro entry hentry
    exact hkeys entry (hmem entry hentry)
  · intro p hp
    obtain ⟨entry, hentry, rfl⟩ := mem_map.1 hp
    rw [← hvalues]
    exact mem_map.2 ⟨entry, hmem entry hentry, rfl⟩

lemma Indexed.get? (h : r.Indexed) (hp : p ∈ r.packages.values) {crate : String}
    (hcrate : p.name.keyText = .ok crate) : r.packages.get? crate = some p := by
  obtain ⟨⟨key, p⟩, hentry, rfl⟩ := mem_map.1 hp
  have hkey := h.named _ hentry
  obtain rfl : key = crate := Except.ok.inj (hkey.symm.trans hcrate)
  exact Table.get?_of_mem h.nodup hentry

/-- The packages that are taken into a project are those that a module of it imports. -/
lemma mem_selected (hr : r.Indexed) {modules : List IR.Module} :
    p ∈ r.selected (Manifest.importedCrates r (some modules)) ↔ ∃ m ∈ modules, ∃ i ∈ m.imports,
        r.packageOfModule? (Manifest.importRoot i) = some p ∧ p.name.isSet = true := by
  unfold selected Manifest.importedCrates crateOfModule?
  simp only [Option.map_some]
  constructor
  · intro hp
    obtain ⟨⟨key, p⟩, hentry, rfl⟩ := mem_map.1 hp
    obtain ⟨hentry, hkey⟩ := mem_filter.1 hentry
    obtain ⟨m, hm, hkey⟩ := mem_flatMap.1 (contains_iff_mem.1 hkey)
    obtain ⟨i, hi, hname⟩ := mem_filterMap.1 hkey
    obtain ⟨name, hname, htext⟩ := Option.bind_eq_some_iff.1 hname
    obtain ⟨hname, hset⟩ := Option.filter_eq_some_iff.1 hname
    obtain ⟨q, hq, rfl⟩ := Option.map_eq_some_iff.1 hname
    have hcrate : q.name.keyText = .ok key := by
      cases htext' : q.name.keyText with
      | error fault => simp [htext', Except.toOption] at htext
      | ok text => simpa [htext', Except.toOption] using htext
    have hfound := hr.get? (mem_of_find?_eq_some hq) hcrate
    rw [Table.get?_of_mem hr.nodup hentry] at hfound
    obtain rfl : p = q := Option.some.inj hfound
    exact ⟨m, hm, i, hi, hq, hset⟩
  · rintro ⟨m, hm, i, hi, hp, hset⟩
    obtain ⟨⟨key, q⟩, hentry, hq⟩ := mem_map.1 (mem_of_find?_eq_some hp)
    obtain rfl : q = p := hq
    have hkey := hr.named _ hentry
    refine mem_map.2 ⟨(key, q), mem_filter.2 ⟨hentry, ?_⟩, rfl⟩
    refine contains_iff_mem.2 (mem_flatMap.2 ⟨m, hm, mem_filterMap.2 ⟨i, hi, ?_⟩⟩)
    rw [hp]
    simp [Option.filter, hset, hkey, Except.toOption]

end Registry

/-! ## Dependencies of packages -/

lemma ok_bind {ε α β : Type} (a : α) (f : α → Except ε β) : (Except.ok a >>= f) = f a :=
  rfl

/-- Is the name that of the package's crate, or one of its dependencies? -/
def Package.Mentions (p : Package) (name : String) : Prop :=
  p.name.keyText = .ok name ∨
    ∃ entries, Registry.dependenciesIn p.dependencies = .ok entries ∧ name ∈ entries.keys

namespace Registry

variable {packages : List Package} {of : Package → Except ValueFault (Table Value)}

/-- The names of the entries, if there are any. -/
def namesIn (entries : Except ValueFault (Table Value)) : List String :=
  entries.toOption.elim [] Table.keys

lemma mem_namesIn {read : Except ValueFault (Table Value)} {name : String} :
    name ∈ namesIn read ↔ ∃ entries, read = .ok entries ∧ name ∈ entries.keys := by
  cases read <;> simp [namesIn, Except.toOption]

lemma keys_gathered {first all : Table Value}
    (h : packages.foldlM (fun deps p => return deps.update (← of p)) first = .ok all) :
    (∀ p ∈ packages, ∃ entries, of p = .ok entries) ∧
    ∀ name, name ∈ all.keys ↔ name ∈ first.keys ∨ ∃ p ∈ packages, name ∈ namesIn (of p) := by
  induction packages generalizing first with
  | nil =>
    cases h
    simp
  | cons p packages ih =>
    rw [foldlM_cons] at h
    obtain ⟨second, hsecond, h⟩ := exists_of_bind_ok h
    obtain ⟨entries, hentries, hsecond⟩ := exists_of_bind_ok hsecond
    cases hsecond
    obtain ⟨hread, hkeys⟩ := ih h
    refine ⟨forall_mem_cons.2 ⟨⟨entries, hentries⟩, hread⟩, fun name => ?_⟩
    have hnames : namesIn (of p) = entries.keys := by rw [hentries]; rfl
    rw [hkeys, Table.mem_keys_update, or_assoc]
    simp [hnames]

lemma exists_gathered (h : ∀ p ∈ packages, ∃ entries, of p = .ok entries) (first : Table Value) :
    ∃ all, packages.foldlM (fun deps p => return deps.update (← of p)) first = .ok all := by
  induction packages generalizing first with
  | nil => exact ⟨first, rfl⟩
  | cons p packages ih =>
    obtain ⟨entries, hentries⟩ := h p (by simp)
    rw [foldlM_cons, hentries]
    exact ih (fun q hq => h q (by simp [hq])) _

end Registry

namespace Features

variable {asked : Value}

lemma dependenciesOf_covers (h : dependenciesOf asked p = .ok entries) :
    ∃ own : Table Value, p.dependencies = .table own ∧
      ((∃ crate, p.name.keyText = .ok crate ∧ entries.keys = [crate]) ∨
        (own ≠ [] ∧ entries = own)) := by
  unfold dependenciesOf at h
  cases hown : p.dependencies with
  | table own =>
    rw [hown] at h
    refine ⟨own, rfl, ?_⟩
    obtain ⟨own?, -, h⟩ := exists_of_bind_ok h
    by_cases hothers : (own?.isNone && !own.isEmpty) = true
    · rw [if_pos hothers] at h
      cases h
      right
      refine ⟨?_, rfl⟩
      rintro rfl
      simp at hothers
    · rw [if_neg hothers] at h
      obtain ⟨crate, hcrate, h⟩ := exists_of_bind_ok h
      obtain ⟨features, -, h⟩ := exists_of_bind_ok h
      obtain ⟨value, -, h⟩ := exists_of_bind_ok h
      cases h
      exact .inl ⟨crate, hcrate, rfl⟩
  | _ =>
    rw [hown] at h
    cases h

lemma mentions_of_dependenciesOf (h : dependenciesOf asked p = .ok entries)
    {name : String} (hname : name ∈ entries.keys) : p.Mentions name := by
  obtain ⟨own, hown, ⟨crate, hcrate, hkeys⟩ | ⟨-, rfl⟩⟩ := dependenciesOf_covers h
  · rw [hkeys, mem_singleton] at hname
    left
    rw [hname, hcrate]
  · right
    rw [hown]
    exact ⟨entries, rfl, hname⟩

/-! ### Packages whose dependencies can be read -/

def Readable (spec : Value) : Prop :=
  ∀ fields, spec = .table fields → ∀ features, Table.get? fields "features" = some features →
    ∃ items, features = .list items

end Features

/-- The values of the package have the forms that a manifest needs. -/
structure Package.WellFormed (p : Package) : Prop where
  name : ∃ text, p.name = .str text
  crate : ∃ text, p.crate = .str text
  version : ∃ text, p.version = .str text
  dependencies : ∃ entries : Table Value, p.dependencies = .table entries ∧
    ∀ entry ∈ entries, Features.Readable entry.2
  defaultFeatures : ∃ items, p.defaultFeatures = .list items

namespace Features

def WellFormed (asked : Value) : Prop :=
  ∃ entries : Table Value, asked = .table entries ∧ ∀ entry ∈ entries, ∃ items, entry.2 = .list items

variable {asked : Value}

lemma forPackage_eq {name crate : String} (hname : p.name = .str name)
    (hcrate : p.crate = .str crate) : forPackage (.table entries) p =
      match (entries.get? name).or (entries.get? crate) with
      | some features => .ok features
      | none =>
        if p.defaultFeatures.isSet then .list <$> p.defaultFeatures.listed else .ok (.list []) := by
  unfold forPackage asked? entry?
  rw [hname, hcrate]
  cases hfirst : entries.get? name with
  | some features => rw [ok_bind, hfirst]; rfl
  | none =>
    simp only [ok_bind, hfirst, Option.none_or]
    cases entries.get? crate <;> rfl

lemma exists_forPackage (hasked : WellFormed asked) (hp : p.WellFormed) :
    ∃ items, forPackage asked p = .ok (.list items) := by
  obtain ⟨entries, rfl, hlists⟩ := hasked
  obtain ⟨name, hname⟩ := hp.name
  obtain ⟨crate, hcrate⟩ := hp.crate
  obtain ⟨defaults, hdefaults⟩ := hp.defaultFeatures
  rw [forPackage_eq hname hcrate, hdefaults]
  cases hfound : (entries.get? name).or (entries.get? crate) with
  | some features =>
    have hmem : ∃ key, entries.get? key = some features := by
      rcases Option.or_eq_some_iff.1 hfound with h | ⟨-, h⟩ <;> exact ⟨_, h⟩
    obtain ⟨key, hkey⟩ := hmem
    obtain ⟨items, rfl⟩ := hlists _ (Table.mem_of_get? hkey)
    exact ⟨items, rfl⟩
  | none => cases defaults <;> exact ⟨_, rfl⟩

lemma exists_withFeatures {base : Value} (hbase : Readable base) (items : List Value) :
    ∃ spec, withFeatures base (.list items) = .ok spec := by
  unfold withFeatures
  cases base with
  | table fields =>
    have hthere : ∃ there, ((Table.get? fields "features").getD (.list [])).listed = .ok there := by
      cases hfeatures : Table.get? fields "features" with
      | none => exact ⟨[], rfl⟩
      | some features =>
        obtain ⟨there, rfl⟩ := hbase fields rfl features hfeatures
        exact ⟨there, rfl⟩
    obtain ⟨there, hthere⟩ := hthere
    dsimp only
    split
    · rw [hthere]
      exact ⟨_, rfl⟩
    · exact ⟨_, rfl⟩
  | _ =>
    dsimp only
    split <;> exact ⟨_, rfl⟩

lemma ownDependency?_eq {name crate : String} (hname : p.name = .str name)
    (hcrate : p.crate = .str crate) : ownDependency? entries p =
      .ok (((entries.get? name).filter (· != .null)).or
        ((entries.get? crate).filter (· != .null))) := by
  unfold ownDependency? entry?
  rw [hname, hcrate]
  cases hfirst : (entries.get? name).filter (· != .null) with
  | some own => simp only [ok_bind, hfirst]; rfl
  | none =>
    by_cases hsame : crate = name
    · simp [ok_bind, hfirst, hsame]
      rfl
    · simp [ok_bind, hfirst, hsame]

lemma exists_ownDependency (hentries : ∀ entry ∈ entries, Readable entry.2)
    (hp : p.WellFormed) :
    ∃ own?, ownDependency? entries p = .ok own? ∧ ∀ own ∈ own?, Readable own := by
  obtain ⟨name, hname⟩ := hp.name
  obtain ⟨crate, hcrate⟩ := hp.crate
  have hfound {key : String} {own : Value}
      (h : (entries.get? key).filter (· != .null) = some own) : Readable own :=
    hentries _ (Table.mem_of_get? (Option.filter_eq_some_iff.1 h).1)
  refine ⟨_, ownDependency?_eq hname hcrate, fun own hown => ?_⟩
  rcases Option.or_eq_some_iff.1 hown with h | ⟨-, h⟩ <;> exact hfound h

lemma exists_dependenciesOf (hasked : WellFormed asked) (hp : p.WellFormed) :
    ∃ entries, dependenciesOf asked p = .ok entries := by
  obtain ⟨items, hitems⟩ := exists_forPackage hasked hp
  obtain ⟨name, hname⟩ := hp.name
  obtain ⟨version, hversion⟩ := hp.version
  obtain ⟨entries, hdependencies, hreadable⟩ := hp.dependencies
  obtain ⟨own?, hown, hreadable⟩ := exists_ownDependency hreadable hp
  have hbase : Readable (own?.getD p.version) := by
    cases own? with
    | none =>
      rw [hversion]
      nofun
    | some own => exact hreadable own rfl
  obtain ⟨spec, hspec⟩ := exists_withFeatures hbase items
  unfold dependenciesOf
  rw [hdependencies]
  dsimp only
  rw [hown, hitems, hname, ok_bind]
  cases hothers : own?.isNone && !entries.isEmpty with
  | true => exact ⟨entries, rfl⟩
  | false =>
    refine ⟨[(name, spec)], ?_⟩
    simp only [Value.keyText, ok_bind, hspec]
    rfl

end Features

end Oxidize
