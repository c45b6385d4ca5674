import Oxidize.Proofs.Manifest.Dependencies
import Oxidize.Proofs.Manifest.Packages

/-!
# Manifests cover what is imported

The emitter and the manifest look separately at what a module imports. They agree: each crate that
the emitter finds among the imports of a module is a dependency, or all that its package names
instead are. Nothing else comes in from the packages: a name that only packages mention which no
module imports is not listed, unless it is one of the names that are built in
(`manifest_lists_imports`). A crate is listed once exactly if its name is always spelt alike
(`manifest_crates_nodup_iff`).
-/

namespace Oxidize

open List Registry

/-! ## What a manifest lists -/

namespace Manifest

variable {r : Registry} {asked : Value} {p : Project} {deps : Dependencies}

/-- The names of the dependencies that are known without any package. -/
def builtin : List String :=
  (always ++ forImport.values.flatten ++ forValues ++ forAsync).map Dependency.name
    ++ ["serde", "actix-web"]

lemma builtin_of_given {name : String} (h : name ∈ (given p).map Dependency.name) :
    name ∈ builtin ∨ name ∈ p.extra.map Dependency.name := by
  obtain ⟨d, hd, rfl⟩ := mem_map.1 h
  have hbuiltin (hd : d ∈ always ++ forImport.values.flatten ++ forValues ++ forAsync) :
      d.name ∈ builtin := mem_append_left _ (mem_map.2 ⟨d, hd, rfl⟩)
  unfold given at hd
  simp only [mem_append] at hd hbuiltin
  rcases hd with (((hd | hd) | hd) | hd) | hd
  · exact .inl (hbuiltin (.inl (.inl (.inl hd))))
  · obtain ⟨m, -, hd⟩ := mem_flatMap.1 hd
    obtain ⟨i, -, hd⟩ := mem_flatMap.1 hd
    cases hfound : forImport.get? (importRoot i) with
    | none =>
      rw [hfound] at hd
      cases hd
    | some needed =>
      rw [hfound] at hd
      have hneeded := Table.mem_values_of_get? hfound
      exact .inl (hbuiltin (.inl (.inl (.inr (mem_flatten.2 ⟨needed, hneeded, hd⟩)))))
  · split at hd
    · exact .inl (hbuiltin (.inl (.inr hd)))
    · cases hd
  · split at hd
    · exact .inl (hbuiltin (.inr hd))
    · cases hd
  · exact .inr (mem_map.2 ⟨d, hd, rfl⟩)

lemma dependencies_spec (h : dependencies r asked p = .ok deps) :
    ∃ own all, r.dependenciesWith asked (importedCrates r p.modules) = .ok own ∧
      r.dependencies (importedCrates r p.modules) = .ok all ∧
      deps = withAttributes (putNew (putNew (put [] (given p)) own) all) (p.modules.getD []) := by
  unfold dependencies at h
  obtain ⟨own, hown, h⟩ := exists_of_bind_ok h
  obtain ⟨all, hall, h⟩ := exists_of_bind_ok h
  cases h
  exact ⟨own, all, hown, hall, rfl⟩

lemma keyed_of_dependencies (h : dependencies r asked p = .ok deps) : Keyed deps := by
  obtain ⟨own, all, -, -, rfl⟩ := dependencies_spec h
  exact (((Keyed.nil.put _).putNew own).putNew all).withAttributes _

/-- The names that are brought in: by the project, by attributes of its modules, and by the packages
that they import. -/
def sources (r : Registry) (asked : Value) (p : Project) : List String :=
  (given p).map Dependency.name ++ attributed (p.modules.getD [])
    ++ (r.selected (importedCrates r p.modules)).flatMap fun q => Registry.namesIn
      (Features.dependenciesOf asked q) ++ Registry.namesIn (Registry.dependenciesIn q.dependencies)

lemma mem_keys_dependencies (h : dependencies r asked p = .ok deps) (name : String) :
    name ∈ deps.keys ↔ name ∈ sources r asked p := by
  obtain ⟨own, all, hown, hall, rfl⟩ := dependencies_spec h
  rw [mem_keys_withAttributes, mem_keys_putNew, mem_keys_putNew, mem_keys_put,
    (keys_gathered hown).2, (keys_gathered hall).2]
  simp only [sources, mem_append, mem_flatMap, and_or_left, exists_or]
  have hnil (α : Type) : name ∉ Table.keys ([] : Table α) := not_mem_nil
  grind

/-- A package that is imported is covered: by its own crate, or by all that it names instead. -/
lemma covers_selected (h : dependencies r asked p = .ok deps) {q : Package}
    (hq : q ∈ r.selected (importedCrates r p.modules)) :
    ∃ own : Table Value, q.dependencies = .table own ∧
      ((∃ crate, q.name.keyText = .ok crate ∧ crate ∈ deps.keys) ∨
        (own ≠ [] ∧ ∀ key ∈ own.keys, key ∈ deps.keys)) := by
  obtain ⟨own, -, hown, -⟩ := dependencies_spec h
  obtain ⟨entries, hentries⟩ := (keys_gathered hown).1 q hq
  have hkept : ∀ name ∈ entries.keys, name ∈ deps.keys := by
    intro name hname
    apply (mem_keys_dependencies h name).2
    refine mem_append_right _ (mem_flatMap.2 ⟨q, hq, mem_append_left _ ?_⟩)
    exact mem_namesIn.2 ⟨entries, hentries, hname⟩
  obtain ⟨named, hnamed, ⟨crate, hcrate, hkeys⟩ | ⟨hne, rfl⟩⟩ :=
    Features.dependenciesOf_covers hentries
  · refine ⟨named, hnamed, .inl ⟨crate, hcrate, hkept crate ?_⟩⟩
    rw [hkeys]
    exact mem_singleton_self crate
  · exact ⟨entries, hnamed, .inr ⟨hne, hkept⟩⟩

/-- A name that is listed is built in, given by the project, or mentioned by an imported package. -/
lemma mentioned_of_mem (h : dependencies r asked p = .ok deps) {name : String}
    (hname : name ∈ deps.keys) : name ∈ builtin ∨ name ∈ p.extra.map Dependency.name ∨
      ∃ q ∈ r.selected (importedCrates r p.modules), q.Mentions name := by
  rw [mem_keys_dependencies h, sources, mem_append, mem_append] at hname
  rcases hname with (hname | hname) | hname
  · exact (builtin_of_given hname).imp_right .inl
  · refine .inl (mem_append_right _ ?_)
    unfold attributed at hname
    grind
  · obtain ⟨q, hq, hname⟩ := mem_flatMap.1 hname
    refine .inr (.inr ⟨q, hq, ?_⟩)
    rw [mem_append, mem_namesIn, mem_namesIn] at hname
    rcases hname with ⟨entries, hentries, hname⟩ | hmentions
    · exact Features.mentions_of_dependenciesOf hentries hname
    · exact .inr hmentions

lemma ne_section {start : String} {c : Char} (h : start.toList.head? = some c) (hc : c ≠ '[')
    (value : String) : "[dependencies]" ≠ start ++ value ++ "\"" := by
  intro heq
  have hhead := congrArg (fun text : String => text.toList.head?) heq
  simp only [String.toList_append, append_assoc, head?_append, h] at hhead
  exact hc (Option.some.inj hhead).symm

lemma not_mem_header (p : Project) : "[dependencies]" ∉ header p := by
  unfold header
  simp only [mem_cons, not_mem_nil, or_false, not_or]
  exact ⟨by decide, ne_section (c := 'n') rfl (by decide) _,
    ne_section (c := 'v') rfl (by decide) _, ne_section (c := 'e') rfl (by decide) _, by decide⟩

lemma not_mem_footer (p : Project) : "[dependencies]" ∉ footer p := by
  unfold footer
  rw [mem_append, not_or]
  refine ⟨?_, by decide⟩
  split
  · exact not_mem_nil
  · simp only [mem_cons, not_mem_nil, or_false, not_or]
    exact ⟨by decide, ne_section (c := 'n') rfl (by decide) _, by decide, by decide⟩

lemma lists_of_render {text : String} (h : render r asked p = .ok text) :
    ∃ deps, dependencies r asked p = .ok deps ∧
      Lists text ((sorted deps).map fun d => (d.name, d.demand)) := by
  unfold render at h
  obtain ⟨deps, hdeps, h⟩ := exists_of_bind_ok h
  cases h
  refine ⟨deps, hdeps, header p, footer p, ?_, not_mem_header p, not_mem_footer p, ?_⟩
  · have hlines : ∀ sorted : List Dependency, sorted.map Dependency.line =
        (sorted.map fun d => (d.name, d.demand)).map fun entry => entry.1 ++ " = " ++ entry.2 := by
      intro sorted
      rw [map_map]
      rfl
    rw [← hlines]
  · unfold footer
    cases p.isLibrary with
    | true => exact ⟨_, rfl, rfl⟩
    | false => exact ⟨_, rfl, rfl⟩

lemma exists_render (hpackages : ∀ q ∈ r.packages.values, q.WellFormed)
    (hasked : Features.WellFormed asked) (p : Project) : ∃ text, render r asked p = .ok text := by
  have hselected : ∀ q ∈ r.selected (importedCrates r p.modules), q.WellFormed := by
    intro q hq
    apply hpackages
    cases hcrates : importedCrates r p.modules with
    | none =>
      rw [hcrates] at hq
      exact hq
    | some crates =>
      rw [hcrates] at hq
      obtain ⟨entry, hentry, rfl⟩ := mem_map.1 hq
      exact mem_map.2 ⟨entry, (mem_filter.1 hentry).1, rfl⟩
  obtain ⟨own, hown⟩ := Registry.exists_gathered
    (fun q hq => Features.exists_dependenciesOf hasked (hselected q hq)) []
  have hlisted : ∀ q ∈ r.selected (importedCrates r p.modules),
      ∃ entries, Registry.dependenciesIn q.dependencies = .ok entries := by
    intro q hq
    obtain ⟨entries, hentries, -⟩ := (hselected q hq).dependencies
    exact ⟨entries, by rw [hentries]; rfl⟩
  obtain ⟨all, hall⟩ := Registry.exists_gathered hlisted []
  have hdeps : dependencies r asked p = .ok
      (withAttributes (putNew (putNew (put [] (given p)) own) all) (p.modules.getD [])) := by
    unfold dependencies Registry.dependenciesWith Registry.dependencies
    dsimp only
    rw [hown, hall]
    rfl
  unfold render
  rw [hdeps]
  exact ⟨_, rfl⟩

end Manifest

/-- The crates that the emitter finds among the imports of a module are those of the packages that
it imports. -/
lemma exists_package_of_crateImports {r : Registry} {m : IR.Module} {localModules : List String}
    {crateName : Option String} {crate : String}
    (h : crate ∈ ((Emitter.start (Resolver.ofModule r m) localModules crateName).run
      (Emit.processImports m.imports)).2.ctx.crateImports.values) :
    ∃ i ∈ m.imports, ∃ q, r.packageOfModule? (Manifest.importRoot i) = some q ∧
      q.name.isSet = true ∧ q.name.keyText = .ok crate := by
  let K : String → Prop := fun crate => ∃ i ∈ m.imports, ∃ q,
    r.packageOfModule? (Manifest.importRoot i) = some q ∧ q.name.isSet = true ∧
      q.name.keyText = .ok crate
  let M : String → Prop := fun module => ∃ i ∈ m.imports, Manifest.importRoot i = module
  have hstart : (Emitter.start (Resolver.ofModule r m) localModules crateName).Within ⟨K, M, Any⟩ := by
    refine Emitter.start_within m localModules crateName ⟨?_, fun _ _ => .free⟩
    rintro _ ⟨i, hi, rfl⟩ q hq hset crate hcrate
    exact ⟨i, hi, q, hq, hset, hcrate⟩
  have hbuilt : Built (Keeps ⟨K, M, Any⟩) ⟨K, M, Any⟩ Any (Emit.processImports m.imports) :=
    Emit.processImports_built (fun i hi => ⟨i, hi, rfl⟩) fun hE => absurd trivial hE
  obtain ⟨-, -, hwithin, -⟩ := hbuilt.run_spec (fun _ hf => hf) _ hstart
  exact hwithin.ctx.imports crate h

/-- A manifest lists, in strictly ascending order of names, each crate that the emitter finds among
the imports of a module, or all that its package names instead; and of the packages that no module
imports it lists nothing. -/
theorem manifest_lists_imports {packages : List Package} {r : Registry}
    (hr : Registry.ofPackages packages = .ok r) (asked : Value) (p : Project)
    {modules : List IR.Module} (hmodules : p.modules = some modules) :
    ((∀ q ∈ packages, q.WellFormed) → Features.WellFormed asked →
      ∃ text, Manifest.render r asked p = .ok text) ∧
    ∀ text, Manifest.render r asked p = .ok text → ∃ entries, Manifest.Lists text entries ∧
      (∀ m ∈ modules, ∀ (localModules : List String) (crateName : Option String),
        ∀ crate ∈ ((Emitter.start (Resolver.ofModule r m) localModules crateName).run
            (Emit.processImports m.imports)).2.ctx.crateImports.values,
          ∃ (q : Package) (own : Table Value), r.packages.get? crate = some q ∧
            q.dependencies = .table own ∧
            (crate ∈ entries.keys ∨ own ≠ [] ∧ ∀ key ∈ own.keys, key ∈ entries.keys)) ∧
      (∀ name, name ∉ Manifest.builtin → name ∉ p.extra.map Dependency.name →
        (∀ q ∈ r.packages.values, q.Mentions name → ∀ m ∈ modules, ∀ i ∈ m.imports,
          r.packageOfModule? (Manifest.importRoot i) ≠ some q) → name ∉ entries.keys) ∧
      entries.keys.Pairwise (· < ·) := by
  obtain ⟨hindexed, hinstalled⟩ := indexed_of_ofPackages hr
  refine ⟨fun hpackages hasked => ?_, fun text htext => ?_⟩
  · exact Manifest.exists_render (fun q hq => hpackages q (hinstalled q hq)) hasked p
  obtain ⟨deps, hdeps, hlists⟩ := Manifest.lists_of_render htext
  have hkeyed := Manifest.keyed_of_dependencies hdeps
  have hkeys := hkeyed.mem_keys_sorted
  refine ⟨_, hlists, ?_, ?_, ?_⟩
  · intro m hm localModules crateName crate hcrate
    obtain ⟨i, hi, q, hq, hset, hname⟩ := exists_package_of_crateImports hcrate
    have hselected : q ∈ r.selected (Manifest.importedCrates r p.modules) := by
      rw [hmodules]
      exact (mem_selected hindexed).2 ⟨m, hm, i, hi, hq, hset⟩
    have hfound := hindexed.get? (mem_of_find?_eq_some hq) hname
    obtain ⟨own, hown, ⟨crate', hname', hcrate'⟩ | ⟨hne, hall⟩⟩ :=
      Manifest.covers_selected hdeps hselected
    · obtain rfl : crate = crate' := Except.ok.inj (hname.symm.trans hname')
      exact ⟨q, own, hfound, hown, .inl ((hkeys _).2 hcrate')⟩
    · exact ⟨q, own, hfound, hown, .inr ⟨hne, fun key hkey => (hkeys key).2 (hall key hkey)⟩⟩
  · intro name hbuiltin hextra hunimported hname
    rcases Manifest.mentioned_of_mem hdeps ((hkeys name).1 hname) with h | h | ⟨q, hq, hmentions⟩
    · exact hbuiltin h
    · exact hextra h
    · rw [hmodules] at hq
      obtain ⟨m, hm, i, hi, hfound, -⟩ := (mem_selected hindexed).1 hq
      exact hunimported q (mem_of_find?_eq_some hfound) hmentions m hm i hi hfound
  · have hsorted := hkeyed.pairwise_sorted
    unfold Table.keys
    rwa [map_map]

def tlsPackage : Package where
  name := .str "native-tls"
  crate := .str "native_tls"
  version := .str "0.2"
  module := .str "spicycrab_native_tls"
  dependencies := .table [("native_tls", .table [("version", .str "0.2")])]
  defaultFeatures := .list [.str "alpn"]

/-- A package that names other dependencies instead of its own crate. -/
def wirePackage : Package where
  name := .str "wire"
  crate := .str "wire"
  version := .str "1"
  module := .str "spicycrab_wire"
  dependencies := .table [("prost", .str "0.12"), ("bytes", .str "1")]

def hashPackage : Package where
  name := .str "sha2"
  crate := .str "sha2"
  version := .str "0.10"
  module := .str "spicycrab_sha2"
  dependencies := .table [("hex", .str "0.4")]

def wiredRegistry : Registry where
  packages := [("native-tls", tlsPackage), ("wire", wirePackage), ("sha2", hashPackage)]

def wiredModule : IR.Module where
  name := "main"
  imports :=
    [{ module := "spicycrab_native_tls", names := [("TlsConnector", none)] },
     { module := "spicycrab_wire.codec", names := [("Frame", some "WireFrame")] },
     { module := "json" }]

def wiredProject : Project where
  name := "wired"
  modules := some [wiredModule]

def wiredFeatures : Value :=
  .table [("native-tls", .list [.str "vendored"])]

lemma readable_str (text : String) : Features.Readable (.str text) :=
  nofun

lemma wellFormed_wiredPackages : ∀ q ∈ [tlsPackage, wirePackage, hashPackage], q.WellFormed := by
  have htls : Features.Readable (.table [("version", .str "0.2")]) := by
    rintro _ ⟨⟩ features hfeatures
    cases hfeatures
  simp only [forall_mem_cons]
  refine ⟨⟨⟨_, rfl⟩, ⟨_, rfl⟩, ⟨_, rfl⟩, ⟨_, rfl, ?_⟩, ⟨_, rfl⟩⟩,
    ⟨⟨_, rfl⟩, ⟨_, rfl⟩, ⟨_, rfl⟩, ⟨_, rfl, ?_⟩, ⟨_, rfl⟩⟩,
    ⟨⟨_, rfl⟩, ⟨_, rfl⟩, ⟨_, rfl⟩, ⟨_, rfl, ?_⟩, ⟨_, rfl⟩⟩, nofun⟩
  · simpa using htls
  · simpa using ⟨readable_str _, readable_str _⟩
  · simpa using readable_str _

lemma not_mentions_hex {q : Package} (hq : q = tlsPackage ∨ q = wirePackage) :
    ¬ q.Mentions "hex" := by
  rintro (hname | hentries)
  · rcases hq with rfl | rfl <;> exact absurd (Except.ok.inj hname) (by decide)
  · rw [← mem_namesIn] at hentries
    rcases hq with rfl | rfl <;> exact absurd hentries (by decide)

theorem manifest_lists_wiredProject :
    ∃ (text : String) (entries : Table String),
      Manifest.render wiredRegistry wiredFeatures wiredProject = .ok text ∧
      Manifest.Lists text entries ∧
      (∀ crate ∈ ["native-tls", "wire"], ∃ (q : Package) (own : Table Value),
        wiredRegistry.packages.get? crate = some q ∧ q.dependencies = .table own ∧
        (crate ∈ entries.keys ∨ own ≠ [] ∧ ∀ key ∈ own.keys, key ∈ entries.keys)) ∧
      "hex" ∉ entries.keys ∧ entries.keys.Pairwise (· < ·) := by
  have hr : ofPackages [tlsPackage, wirePackage, hashPackage] = .ok wiredRegistry := rfl
  obtain ⟨htotal, hlists⟩ := manifest_lists_imports hr wiredFeatures wiredProject rfl
  have hasked : Features.WellFormed wiredFeatures := ⟨_, rfl, by simp⟩
  obtain ⟨text, htext⟩ := htotal wellFormed_wiredPackages hasked
  obtain ⟨entries, hentries, hcovers, hothers, hsorted⟩ := hlists text htext
  refine ⟨text, entries, htext, hentries, ?_, ?_, hsorted⟩
  · have hcrates : ((Emitter.start (Resolver.ofModule wiredRegistry wiredModule) [] none).run
        (Emit.processImports wiredModule.imports)).2.ctx.crateImports.values =
          ["native-tls", "wire"] := by decide
    intro crate hcrate
    exact hcovers wiredModule (by simp) [] none crate (hcrates ▸ hcrate)
  · refine hothers "hex" (by decide) (by decide) ?_
    intro q _ hmentions m hm i hi hfound
    obtain rfl : m = wiredModule := by simpa using hm
    refine not_mentions_hex ?_ hmentions
    simp only [wiredModule, mem_cons, not_mem_nil, or_false] at hi
    rcases hi with rfl | rfl | rfl
    · left
      exact (Option.some.inj hfound).symm
    · right
      exact (Option.some.inj hfound).symm
    · cases hfound

/-! ## One entry for a crate -/

namespace Manifest

/-- A crate is listed once, exactly if all that bring it in spell its name alike. -/
theorem manifest_crates_nodup_iff {r : Registry} {asked : Value} {p : Project} {text : String}
    (h : render r asked p = .ok text) :
    ∃ entries, Lists text entries ∧ ((entries.keys.map Resolver.crateIdent).Nodup ↔
      ∀ a ∈ sources r asked p, ∀ b ∈ sources r asked p,
        Resolver.crateIdent a = Resolver.crateIdent b → a = b) := by
  obtain ⟨deps, hdeps, hlists⟩ := lists_of_render h
  have hkeyed := keyed_of_dependencies hdeps
  refine ⟨_, hlists, ?_⟩
  rw [nodup_map_iff_inj_on]
  · simp only [hkeyed.mem_keys_sorted, mem_keys_dependencies hdeps]
  · unfold Table.keys
    rw [map_map]
    exact hkeyed.perm_sorted.nodup_iff.2 hkeyed.nodup

def framedProject : Project where
  name := "framed"
  modules := some [{ name := "main", imports := [{ module := "spicycrab_wire" }] }]

theorem manifest_crates_nodup_framedProject :
    ∃ text entries, render wiredRegistry wiredFeatures framedProject = .ok text ∧
      Lists text entries ∧ (entries.keys.map Resolver.crateIdent).Nodup := by
  have hasked : Features.WellFormed wiredFeatures := ⟨_, rfl, by simp⟩
  obtain ⟨text, htext⟩ :=
    exists_render (r := wiredRegistry) wellFormed_wiredPackages hasked framedProject
  obtain ⟨entries, hentries, hnodup⟩ := manifest_crates_nodup_iff htext
  exact ⟨text, entries, htext, hentries, hnodup.2 (by decide)⟩

theorem manifest_crates_repeated_wiredProject :
    ∃ deps, dependencies wiredRegistry wiredFeatures wiredProject = .ok deps ∧
      ¬ (deps.keys.map Resolver.crateIdent).Nodup :=
  ⟨_, rfl, by decide⟩

end Manifest

end Oxidize
