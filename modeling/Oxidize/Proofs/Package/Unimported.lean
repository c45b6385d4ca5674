import Mathlib.Data.List.Nodup
import Oxidize.Proofs.Emission.Items
import Oxidize.Transpile

/-!
# Packages that a module does not import

A package that a module does not import can show in the written module only through a search of all
packages. The main result is that it does not show otherwise: if the package answers none of the
searches that writing the module makes without it, or a package installed before it answers as well,
the written module is the same with and without it.
-/

namespace Oxidize

open Registry Emitter Resolver List

/-! ## Registries that are alike for an action -/

def Emitter.withRegistry (e : Emitter) (h : Registry) : Emitter :=
  { e with resolver := { e.resolver with registry := h } }

section Alike

variable {S : Search → Prop} {C : (Context → Context) → Prop} {T : Terms} {α : Type}
variable {Q : α → Prop}

lemma Query.run_alike {l : Lookup α} (hl : Query T Q l) {g h : Registry} (hon : g.log.isOn)
    (halike : g.Alike S T.crates T.modules h) (hS : ∀ s ∈ (l.run g).2.searches, S s) :
    (l.run h).1 = (l.run g).1 := by
  cases hl with
  | pure _ => rfl
  | note kind counter details => rfl
  | function? key =>
    rw [function?_run, function?_run]
    exact halike.search _ (hS _ (function_mem_searches hon key))
  | @method? type method crate? hc =>
    cases crate? with
    | none =>
      rw [method?_none_run, method?_none_run]
      exact halike.search _ (hS _ (method_mem_searches hon type method))
    | some crate =>
      rw [method?_some_run, method?_some_run, halike.package crate (hc crate rfl)]
  | @type? type crate hc =>
    rw [type?_some_run, type?_some_run, halike.package crate hc]
  | @variant? type variant crate hc =>
    rw [variant?_some_run, variant?_some_run, halike.package crate hc]
  | package? hc => exact halike.package _ hc
  | importedCrate? hm => exact halike.module _ hm

lemma Asks.run_alike {all : Bool} {x : Resolve α} (hx : Asks all T Q x) (r : Resolver)
    (hr : r.Within T) (hon : r.registry.log.isOn) {h : Registry}
    (halike : r.registry.Alike S T.crates T.modules h)
    (hS : ∀ s ∈ (x.run r).2.registry.searches, S s) : ∃ h' : Registry, h'.packages = h.packages ∧
      x.run { r with registry := h } = ((x.run r).1, { (x.run r).2 with registry := h' }) := by
  induction hx generalizing r h with
  | pure _ | imported | classType? _ | neededUses _ | need _ | importName _ _
  | takeImports _ =>
    exact ⟨h, rfl, rfl⟩
  | @bind _ _ _ _ x f hx hf ihx ihf =>
    obtain ⟨ha, hr', hext⟩ := hx.run_spec r hr
    obtain ⟨_, _, hext'⟩ := (hf _ ha).run_spec _ hr'
    -- the searches of the first part are among those of the whole
    obtain ⟨h₁, hpackages₁, hrun₁⟩ := ihx r hr hon halike fun s hs =>
      hS s (mem_searches_of_extends hext' hs)
    obtain ⟨h₂, hpackages₂, hrun₂⟩ := ihf _ ha _ hr' (hext.isOn ▸ hon)
      (halike.congr hext.packages hpackages₁) hS
    refine ⟨h₂, hpackages₂.trans hpackages₁, ?_⟩
    rw [StateT.run_bind, hrun₁]
    exact hrun₂
  | @lookup _ _ l hl =>
    refine ⟨(l.run h).2, (hl.extends_run h).packages, ?_⟩
    have hsame := hl.run_alike hon halike hS
    exact Prod.ext hsame rfl

lemma Built.run_alike {x : Emit α} (hx : Built C T Q x) (hC : ∀ f, C f → Keeps T f)
    (e : Emitter) (he : e.Within T) (hon : e.resolver.registry.log.isOn) {h : Registry}
    (halike : e.resolver.registry.Alike S T.crates T.modules h)
    (hS : ∀ s ∈ (e.run x).2.resolver.registry.searches, S s) :
    ∃ h' : Registry, h'.packages = h.packages ∧
      (e.withRegistry h).run x = ((e.run x).1, (e.run x).2.withRegistry h') := by
  induction hx generalizing e h with
  | pure _ | throw _ | context _ | nativeMethod? _ _ | change _ => exact ⟨h, rfl, rfl⟩
  | read _ _ ih | look _ _ _ ih => exact ih e.ctx he.ctx e he hon halike hS
  | known _ _ ih => exact ih e he hon halike hS
  | @bind _ _ _ _ x f hx hf ihx ihf =>
    obtain ⟨hP, -, he', hext⟩ := hx.run_spec hC e he
    rcases hrun : e.run x with ⟨result, e'⟩
    rw [hrun] at hP he' hext
    cases result with
    | error error =>
      rw [run_bind_error hrun] at hS ⊢
      obtain ⟨h', hpackages, hrun'⟩ := ihx e he hon halike (by rw [hrun]; exact hS)
      rw [hrun] at hrun'
      exact ⟨h', hpackages, run_bind_error hrun'⟩
    | ok a =>
      rw [run_bind_ok hrun] at hS ⊢
      obtain ⟨_, _, _, hext'⟩ := (hf a (hP a rfl)).run_spec hC e' he'
      obtain ⟨h₁, hpackages₁, hrun₁⟩ := ihx e he hon halike fun s hs =>
        hS s (mem_searches_of_extends hext' (by rw [hrun] at hs; exact hs))
      rw [hrun] at hrun₁
      obtain ⟨h₂, hpackages₂, hrun₂⟩ := ihf a (hP a rfl) e' he' (hext.isOn ▸ hon)
        (halike.congr hext.packages hpackages₁) hS
      refine ⟨h₂, hpackages₂.trans hpackages₁, ?_⟩
      rw [run_bind_ok hrun₁, hrun₂]
  | @resolving _ _ r hr | @asking _ _ r _ hr =>
    obtain ⟨h', hpackages, hrun⟩ := hr.run_alike e.resolver he.resolver hon halike hS
    refine ⟨h', hpackages, ?_⟩
    rw [run_resolving, run_resolving]
    unfold withRegistry
    dsimp only
    rw [hrun]

end Alike

def Package.isNamed (p : Package) (crate : String) : Bool :=
  match p.name.keyText with
  | .ok key => crate == key
  | .error _ => false

lemma exists_of_bind_ok {ε α β : Type} {x : Except ε α} {f : α → Except ε β} {b : β}
    (h : (x >>= f) = .ok b) : ∃ a, x = .ok a ∧ f a = .ok b := by
  cases x with
  | error fault => cases h
  | ok a => exact ⟨a, rfl, h⟩

namespace Registry

variable {packages : List Package}

lemma named_spec {entries : Table Package}
    (h : (packages.mapM fun p => return (← p.name.keyText, p) : Except ValueFault _) =
      .ok entries) :
    entries.values = packages ∧ ∀ entry ∈ entries, entry.2.name.keyText = .ok entry.1 := by
  induction packages generalizing entries with
  | nil =>
    cases h
    exact ⟨rfl, by simp⟩
  | cons p packages ih =>
    rw [mapM_cons] at h
    obtain ⟨first, hfirst, h⟩ := exists_of_bind_ok h
    obtain ⟨key, hkey, hfirst⟩ := exists_of_bind_ok hfirst
    obtain ⟨rest, hrest, h⟩ := exists_of_bind_ok h
    cases hfirst
    cases h
    obtain ⟨hvalues, hnames⟩ := ih hrest
    refine ⟨by simpa [Table.values] using hvalues, ?_⟩
    intro entry hentry
    rcases mem_cons.1 hentry with rfl | hentry
    · exact hkey
    · exact hnames entry hentry

variable {r : Registry}

/-- A registry of packages with different names holds them under these names, in their order. -/
lemma ofPackages_spec (hr : ofPackages packages = .ok r)
    (hnames : (packages.map fun p => p.name.keyText).Nodup) : r.packages.values = packages ∧
      ∀ entry ∈ r.packages, entry.2.name.keyText = .ok entry.1 := by
  unfold ofPackages at hr
  obtain ⟨entries, hentries, hr⟩ := exists_of_bind_ok hr
  cases hr
  obtain ⟨hvalues, hkeys⟩ := named_spec hentries
  have hsame : (Table.keys entries).map Except.ok = packages.map fun p => p.name.keyText := by
    rw [← hvalues]
    unfold Table.keys Table.values
    rw [map_map, map_map]
    exact map_congr_left fun entry hentry => (hkeys entry hentry).symm
  have hnodup : (Table.keys entries).Nodup := by
    apply List.Nodup.of_map Except.ok
    rw [hsame]
    exact hnames
  rw [Table.ofList_of_nodup hnodup]
  exact ⟨hvalues, hkeys⟩

lemma get?_eq_find? {packages : Table Package}
    (h : ∀ entry ∈ packages, entry.2.name.keyText = .ok entry.1) (crate : String) :
    packages.get? crate = packages.values.find? (·.isNamed crate) := by
  induction packages with
  | nil => rfl
  | cons entry packages ih =>
    obtain ⟨key, p⟩ := entry
    have hkey : p.isNamed crate = (crate == key) := by
      unfold Package.isNamed
      rw [h (key, p) (by simp)]
    have hrest := ih fun entry hentry => h entry (by simp [hentry])
    unfold Table.get? Table.values at hrest ⊢
    rw [lookup_cons, map_cons, find?_cons, hkey]
    cases crate == key with
    | true => rfl
    | false => exact hrest

variable {before after : List Package} {p : Package}

lemma nodup_without (hnames : ((before ++ p :: after).map fun q => q.name.keyText).Nodup) :
    ((before ++ after).map fun q => q.name.keyText).Nodup :=
  hnames.sublist (((List.Sublist.refl before).append (sublist_cons_self p after)).map _)

lemma nameFrom_of_nodup (hr : ofPackages (before ++ after) = .ok r)
    (hnames : ((before ++ p :: after).map fun q => q.name.keyText).Nodup) :
    ∀ q ∈ r.packages.values, NameFrom (fun crate => p.isNamed crate = false) q.name := by
  intro q hq _ crate hcrate
  rw [(ofPackages_spec hr (nodup_without hnames)).1] at hq
  have hne : p.name.keyText ≠ q.name.keyText := by
    have hperm : (before ++ p :: after).Perm (p :: (before ++ after)) := perm_middle
    have hcons := (hperm.map fun q => q.name.keyText).nodup_iff.1 hnames
    rw [map_cons, nodup_cons] at hcons
    intro heq
    exact hcons.1 (heq ▸ mem_map_of_mem hq)
  unfold Package.isNamed
  split
  · rename_i key hkey
    rw [beq_eq_false_iff_ne]
    rintro rfl
    exact hne (hkey.trans hcrate.symm)
  · rfl

/-- A further package makes no difference to what does not ask for it: to look-ups that name another
crate, to searches that it does not answer or that are answered before, and to other modules. -/
lemma alike_insert {r' : Registry}
    (hr : ofPackages (before ++ after) = .ok r) (hr' : ofPackages (before ++ p :: after) = .ok r')
    (hnames : ((before ++ p :: after).map fun q => q.name.keyText).Nodup) :
    r.Alike (fun s => (s.answer? p).isSome → ∃ q ∈ before, (s.answer? q).isSome)
      (fun crate => p.isNamed crate = false) (fun module => p.module ≠ .str module) r' := by
  obtain ⟨hvalues, hkeys⟩ := ofPackages_spec hr (nodup_without hnames)
  obtain ⟨hvalues', hkeys'⟩ := ofPackages_spec hr' hnames
  refine ⟨?_, ?_, ?_⟩
  · intro crate hcrate
    rw [get?_eq_find? hkeys', get?_eq_find? hkeys, hvalues, hvalues', find?_append,
      find?_append, find?_cons, hcrate]
  · intro s hs
    unfold Search.first?
    rw [hvalues, hvalues', findSome?_append, findSome?_append, findSome?_cons]
    cases hanswer : s.answer? p with
    | none => rfl
    | some m =>
      obtain ⟨q, hq, hfound⟩ := hs (by simp [hanswer])
      have hbefore : (before.findSome? s.answer?).isSome := by
        rw [findSome?_isSome_iff]
        exact ⟨q, hq, hfound⟩
      obtain ⟨m', hm'⟩ := Option.isSome_iff_exists.1 hbefore
      rw [hm']
      rfl
  · intro module hmodule
    have hne : (p.module == .str module) = false := by simpa using hmodule
    unfold crateOfModule? packageOfModule?
    rw [hvalues, hvalues', find?_append, find?_append, find?_cons, hne]

end Registry

lemma Resolver.ofModule_registry (g h : Registry) (m : IR.Module) :
    ofModule h m = { ofModule g m with registry := h } ∧ (ofModule g m).crateImports = [] := by
  unfold ofModule
  generalize m.classes = classes
  have hfold : ∀ r : Resolver,
      classes.foldl (fun r c => r.register c.name) { r with registry := h } =
        { classes.foldl (fun r c => r.register c.name) r with registry := h } ∧
      (classes.foldl (fun r c => r.register c.name) r).crateImports = r.crateImports := by
    induction classes with
    | nil => exact fun _ => ⟨rfl, rfl⟩
    | cons c classes ih => exact fun r => ih (r.register c.name)
  exact hfold { registry := g }

lemma Emitter.start_within {T : Terms} {g : Registry} (m : IR.Module)
    (localModules : List String) (crateName : Option String) (h : g.Within T) :
    (start (ofModule g m) localModules crateName).Within T := by
  refine ⟨⟨nofun, fun _ => rfl, fun _ => nofun⟩, ?_, ?_⟩
  · intro crate hcrate
    rw [show (start (ofModule g m) localModules crateName).resolver.crateImports =
      [] from (ofModule_registry g g m).2] at hcrate
    cases hcrate
  · rw [show (start (ofModule g m) localModules crateName).resolver.registry = g
      from congrArg registry (ofModule_registry g g m).1]
    exact h

lemma transpile_alike {S : Search → Prop} {K M : String → Prop} {g h : Registry}
    (hon : g.log.isOn) (hnames : ∀ p ∈ g.packages.values, NameFrom K p.name)
    (halike : g.Alike S K M h) (m : IR.Module)
    (hM : ∀ i ∈ m.imports, M (Text.before i.module ".")) (localModules : List String)
    (crateName : Option String)
    (hS : ∀ s ∈ (transpile g m localModules crateName).2.searches, S s) :
    (transpile h m localModules crateName).1 = (transpile g m localModules crateName).1 := by
  let e := start (ofModule g m) localModules crateName
  have hstart : start (ofModule h m) localModules crateName = e.withRegistry h := by
    rw [(ofModule_registry g h m).1]
    rfl
  have hregistry : e.resolver.registry = g :=
    congrArg registry (ofModule_registry g g m).1
  have he : e.Within ⟨K, M, Any⟩ := start_within m localModules crateName
    ⟨fun _ _ p hp => hnames p (mem_of_find?_eq_some hp), fun _ _ => .free⟩
  obtain ⟨h', _, hrun⟩ := (Emit.module_built (.of_modules hM)).run_alike (fun _ hf => hf) e he
    (by rw [hregistry]; exact hon) (by rw [hregistry]; exact halike) hS
  have hresult : ((e.withRegistry h).run (Emit.module m)).1 = (e.run (Emit.module m)).1 := by
    rw [hrun]
  unfold transpile
  rw [hstart]
  exact hresult

def searches (r : Registry) (m : IR.Module) (localModules : List String)
    (crateName : Option String) : List Search :=
  let logged := { r with log := Log.start "transpile" m.name }
  (transpile logged m localModules crateName).2.searches

/-- A module is written in the same way with and without a package that it does not import, if each
search that the package answers among those made without it is also answered by a package installed
before it. -/
theorem transpile_unimported_package (before after : List Package) (p : Package)
    {r r' : Registry} (hr : Registry.ofPackages (before ++ after) = .ok r)
    (hr' : Registry.ofPackages (before ++ p :: after) = .ok r')
    (hnames : ((before ++ p :: after).map fun q => q.name.keyText).Nodup) (m : IR.Module)
    (himports : ∀ i ∈ m.imports, p.module ≠ .str (Text.before i.module "."))
    (localModules : List String) (crateName : Option String)
    (hsearch : ∀ s ∈ searches r m localModules crateName,
      (s.answer? p).isSome → ∃ q ∈ before, (s.answer? q).isSome) :
    (transpile r' m localModules crateName).1 = (transpile r m localModules crateName).1 := by
  -- both are compared with the module written without the package while its searches are logged
  let logged : Registry := { r with log := Log.start "transpile" m.name }
  have halike : logged.Alike _ _ _ r' := (Registry.alike_insert hr hr' hnames).congr rfl rfl
  have hother : ∀ q ∈ r.packages.values, NameFrom (fun crate => p.isNamed crate = false) q.name :=
    Registry.nameFrom_of_nodup hr hnames
  have hwith := transpile_alike (g := logged) rfl hother halike m himports localModules crateName hsearch
  have hwithout := transpile_alike (g := logged) rfl hother
    (.of_packages_eq (fun s => (s.answer? p).isSome → ∃ q ∈ before, (s.answer? q).isSome) _
      (fun module => p.module ≠ .str module) (rfl : r.packages = logged.packages))
    m himports localModules crateName hsearch
  rw [hwith, hwithout]

def samplingPackage (crate type : String) : Package where
  name := .str crate
  crate := .str crate
  version := .str "1.0"
  module := .str s!"spicycrab_{crate}"
  functions := [(s!"{crate}.total",
    { module := .str crate, func := .str "total", template := .str s!"{crate}::total()" })]
  methods := [(s!"{type}.total",
    { module := .str crate, func := .str "total", template := .str "\x7bself\x7d.sample()" })]

/-- A module that imports a function from the package `probe` and calls it. -/
def probingModule : IR.Module where
  name := "probing"
  imports := [{ module := "spicycrab_probe", names := [("total", none)] }]
  functions := [{
    name := "value"
    body := [.ret (.call (.name "total" none) [] [] none) none] }]

/-- A module with a class `Meter`, and a function that calls its method `total`. -/
def meterModule : IR.Module where
  name := "meter"
  classes := [{ name := "Meter" }]
  functions := [{
    name := "value"
    params := [{ name := "m", type := .cls "Meter" none }]
    result := some (.prim .int)
    body := [.ret (.method (.name "m" none) "total" [] [] none) none] }]

/-- A second package changes nothing in a module that imports from the first one. -/
theorem transpile_probingModule :
    (transpile { packages := [("probe", samplingPackage "probe" "Probe"),
        ("other", samplingPackage "other" "Other")] } probingModule [] none).1 =
      (transpile { packages := [("probe", samplingPackage "probe" "Probe")] }
        probingModule [] none).1 := by
  refine transpile_unimported_package [samplingPackage "probe" "Probe"] []
    (samplingPackage "other" "Other") rfl rfl ?_ probingModule ?_ [] none ?_
  · simp [samplingPackage, Value.keyText]
  · decide
  · decide +kernel

/-- A package that maps a method of a type of the same name as a class of the module changes how
the method is written, although the module imports nothing. -/
theorem transpile_meterModule :
    (transpile {} meterModule [] none).1.toOption =
        some ("#[derive(Debug, Clone)]\npub struct Meter \x7b\n\x7d\n\n\n" ++
          "pub fn value(m: Meter) -> i64 \x7b\n    m.total()\n\x7d\n") ∧
      (transpile { packages := [("probe", samplingPackage "probe" "Meter")] }
          meterModule [] none).1.toOption =
        some ("#[derive(Debug, Clone)]\npub struct Meter \x7b\n\x7d\n\n\n" ++
          "pub fn value(m: Meter) -> i64 \x7b\n    m.sample()\n\x7d\n") := by
  decide +kernel

end Oxidize
