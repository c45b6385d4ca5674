import Oxidize.Command.Transpile
import Oxidize.Proofs.Package.Unimported
import Oxidize.Proofs.Project.Places

/-!
# Writing a project

What each step of a command leaves behind, if it succeeds: the packages stay as they are, and files
change only where the step writes. The code of a module depends on the packages alone
(`transpile_congr`), so it is the same whatever was written and logged before.
-/

namespace Oxidize

open List

/-! ## The code of a module -/

lemma Emitter.packages_run_module (e : Emitter) (m : IR.Module) :
    (e.run (Emit.module m)).2.resolver.registry.packages = e.resolver.registry.packages := by
  have hready : ModuleReady .free m := .of_modules fun _ _ => trivial
  obtain ⟨-, -, -, hext⟩ := (Emit.module_built hready).run_spec (fun _ hf => hf) e e.within_free
  exact hext.packages

lemma packages_transpile (g : Registry) (m : IR.Module) (modules : List String)
    (crate : Option String) : (transpile g m modules crate).2.packages = g.packages := by
  have hstart : (Resolver.ofModule g m).registry = g :=
    congrArg Resolver.registry (Resolver.ofModule_registry g g m).1
  let e := Emitter.start (Resolver.ofModule g m) modules crate
  exact (e.packages_run_module m).trans (congrArg Registry.packages hstart)

lemma transpile_congr {g h : Registry} (hpackages : h.packages = g.packages) (m : IR.Module)
    (modules : List String) (crate : Option String) :
    (transpile h m modules crate).1 = (transpile g m modules crate).1 := by
  let logged : Registry := { g with log := Log.start "transpile" m.name }
  have hsame : ∀ r : Registry, r.packages = g.packages →
      (transpile r m modules crate).1 = (transpile logged m modules crate).1 := by
    intro r hr
    exact transpile_alike (S := Any) (K := Any) (M := Any) (g := logged) rfl
      (fun _ _ _ _ _ => trivial) (.of_packages_eq _ _ _ hr) m (fun _ _ => trivial) modules crate
      fun _ _ => trivial
  rw [hsame h hpackages, hsame g rfl]

namespace Command

open Stopping

/-! ## Steps -/

/-- The packages are the same, and files have changed only at places that end in one of the
names. -/
structure Session.Keeps (names : String → Prop) (s s' : Session) : Prop where
  packages : s'.registry.packages = s.registry.packages
  files : s.files.Keeps names s'.files

def nowhere (_ : String) : Prop :=
  False

namespace Session.Keeps

variable {names others : String → Prop} {s s' s'' : Session}

lemma refl (s : Session) : s.Keeps names s :=
  ⟨rfl, .refl _⟩

lemma trans (h : s.Keeps names s') (h' : s'.Keeps names s'') : s.Keeps names s'' :=
  ⟨h'.packages.trans h.packages, h.files.trans h'.files⟩

lemma mono (h : s.Keeps names s') (hnames : ∀ name, names name → others name) : s.Keeps others s' :=
  ⟨h.packages, h.files.mono hnames⟩

lemma of_nowhere (h : s.Keeps nowhere s') : s.Keeps names s' :=
  h.mono fun _ => False.elim

end Session.Keeps

variable {s s' : Session} {α β : Type}

/-- Steps that leave the files and the packages alone, if they succeed. -/
def Prints (x : Shell α) : Prop :=
  ∀ ⦃s : Session⦄ ⦃a : α⦄ ⦃s' : Session⦄, x.run.run s = (.ok a, s') →
    s'.files = s.files ∧ s'.registry = s.registry

namespace Prints

lemma pure (a : α) : Prints (pure a : Shell α) := by
  intro s b s' h
  cases h
  exact ⟨rfl, rfl⟩

lemma throw (stop : Stop) : Prints (throw stop : Shell α) := by
  intro s b s' h
  cases h

lemma say (line : String) : Prints (say line) := by
  intro s b s' h
  cases h
  exact ⟨rfl, rfl⟩

lemma sayIf (told : Bool) (line : String) :
    Prints (if told then Command.say line else Pure.pure ()) := by
  cases told with
  | true => exact say line
  | false => exact pure ()

lemma keeps {x : Shell α} (hx : Prints x) {a : α} (h : x.run.run s = (.ok a, s'))
    (names : String → Prop) : s.Keeps names s' := by
  obtain ⟨hfiles, hregistry⟩ := hx h
  exact ⟨by rw [hregistry], hfiles ▸ .refl _⟩

end Prints

/-! ### Files -/

lemma attempt_spec {steps : Filing α} {a : α} (h : (attempt steps).run.run s = (.ok a, s')) :
    steps.run.run s.files = (.ok a, s'.files) ∧ s'.registry = s.registry := by
  obtain ⟨t₀, s₀, htree, h⟩ := of_run_bind h
  cases htree
  rcases hsteps : steps.run.run s.files with ⟨result, t⟩
  rw [hsteps] at h
  cases result with
  | error fault => cases h
  | ok a' =>
    cases h
    exact ⟨rfl, rfl⟩

variable {o : TranspileOptions} {path text code : String}

/-- A file that is written is found under its path, and no file of another name has changed. -/
lemma writeTold_spec {name : String} (hpath : Path.EndsIn path name)
    (h : (writeTold o path text).run.run s = (.ok (), s')) :
    s'.files.file? path = some { text } ∧ s.Keeps (· = name) s' := by
  obtain ⟨_, s₁, hwrite, htell⟩ := of_run_bind h
  obtain ⟨hfiles, hregistry⟩ := attempt_spec hwrite
  obtain ⟨hfile, hkeeps⟩ := Filing.write_spec hpath hfiles
  obtain ⟨hfiles', hregistry'⟩ := Prints.sayIf _ _ htell
  rw [← hfiles'] at hfile hkeeps
  exact ⟨hfile, by rw [hregistry', hregistry], hkeeps⟩

def projectTree (o : TranspileOptions) (t : Tree) : Tree :=
  (t.after (.makeAll o.output)).after (.makeAll (Path.join o.output "src"))

lemma keeps_projectTree (o : TranspileOptions) (t : Tree) (names : String → Prop) :
    t.Keeps names (projectTree o t) :=
  (Filing.makeAll_touches o.output t).trans (Filing.makeAll_touches (Path.join o.output "src") _)

lemma makeDirectory_spec (h : (makeDirectory path).run.run s = (.ok (), s')) :
    s'.files = s.files.after (.makeAll path) ∧ s'.registry = s.registry := by
  obtain ⟨hfiles, hregistry⟩ := attempt_spec h
  refine ⟨?_, hregistry⟩
  unfold Tree.after
  rw [hfiles]

lemma makeProject_spec (h : (makeProject o).run.run s = (.ok code, s')) :
    code = Path.join o.output "src" ∧ s'.files = projectTree o s.files ∧
      s'.registry = s.registry := by
  obtain ⟨_, s₁, houtput, h⟩ := of_run_bind h
  obtain ⟨_, s₂, hcode, h⟩ := of_run_bind h
  obtain ⟨hfiles₁, hregistry₁⟩ := makeDirectory_spec houtput
  obtain ⟨hfiles₂, hregistry₂⟩ := makeDirectory_spec hcode
  have hrest : code = Path.join o.output "src" ∧ s'.files = s₂.files ∧ s'.registry = s₂.registry := by
    dsimp only at h
    split at h
    · cases h
      exact ⟨rfl, rfl, rfl⟩
    · cases h
      exact ⟨rfl, rfl, rfl⟩
  obtain ⟨rfl, hfiles₃, hregistry₃⟩ := hrest
  refine ⟨rfl, ?_, hregistry₃.trans (hregistry₂.trans hregistry₁)⟩
  rw [hfiles₃, hfiles₂, hfiles₁]
  rfl

lemma save_spec {record : LogRecord} {output stamp : String} {t t' : Tree}
    (h : (record.save output stamp).run.run t = (.ok path, t')) :
    t.Keeps (Text.endsWith · ".json") t' := by
  obtain ⟨_, t₁, hmake, h⟩ := of_run_bind h
  obtain ⟨_, t₂, hwrite, h⟩ := of_run_bind h
  cases h
  have hdirectories : t.Keeps (Text.endsWith · ".json") t₁ := by
    have htouches : t.Keeps (Text.endsWith · ".json")
        ((Filing.makeAll (record.directory output)).run.run t).2 := Filing.makeAll_touches _ t
    rwa [hmake] at htouches
  obtain ⟨name, hpath, hending⟩ := Path.exists_endsIn_join (record.directory output)
    s!"{record.name}_{stamp}" ".json" (by decide) (by decide)
  have hkeeps := (Filing.write_spec hpath hwrite).2
  exact hdirectories.trans (hkeeps.mono fun _ hname => hname ▸ hending)

lemma saveLogTold_spec (h : (saveLogTold o).run.run s = (.ok (), s')) :
    s.Keeps (Text.endsWith · ".json") s' := by
  unfold saveLogTold at h
  split at h
  · obtain ⟨saved, s₁, hsave, h⟩ := of_run_bind h
    have hrest : s₁.Keeps (Text.endsWith · ".json") s' := by
      split at h
      · exact Prints.keeps (Prints.sayIf _ _) h _
      · exact Prints.keeps (Prints.pure _) h _
    refine Session.Keeps.trans ?_ hrest
    obtain ⟨s₀, s₂, hget, hsave⟩ := of_run_bind hsave
    cases hget
    split at hsave
    · cases hsave
      exact .refl _
    · obtain ⟨path, s₃, hattempt, hsave⟩ := of_run_bind hsave
      cases hsave
      obtain ⟨hfiles, hregistry⟩ := attempt_spec hattempt
      exact ⟨by rw [hregistry], save_spec hfiles⟩
  · cases h
    exact .refl _

lemma writeManifest_spec {directory : String} {p : Project}
    (h : (writeManifest o directory p).run.run s = (.ok (), s')) :
    s.Keeps (· = "Cargo.toml") s' := by
  obtain ⟨s₀, s₁, hget, h⟩ := of_run_bind h
  cases hget
  obtain ⟨text, s₂, hrender, h⟩ := of_run_bind h
  have hpath : Path.EndsIn (Path.join o.output "Cargo.toml") "Cargo.toml" :=
    Path.endsIn_join_name _ (Path.isName_of_length (by decide) (by decide))
  refine Session.Keeps.trans ?_ (writeTold_spec hpath h).2
  unfold orFault at hrender
  split at hrender
  · exact Prints.keeps (Prints.pure _) hrender _
  · exact Prints.keeps (Prints.throw _) hrender _

/-! ### Reading -/

/-- The module in a source file of a tree, if the file can be taken over. -/
def moduleAt? (t : Tree) (path : String) : Option IR.Module :=
  (t.file? path).bind fun file =>
    ((SourceFile.ofDocument (Text.asRead file.text) (file.content?.getD .null)).parse
      (some path)).toOption

lemma file?_of_read {t : Tree} {file : File} (h : t.read path = .ok file) :
    t.file? path = some file := by
  unfold Tree.read at h
  obtain ⟨place, hfollow, h⟩ := exists_of_bind_ok h
  refine Tree.file?_eq_some_iff.2 ⟨place, hfollow, ?_⟩
  cases hget : t.files.get? place with
  | none =>
    rw [hget] at h
    cases h
  | some found =>
    rw [hget] at h
    cases h
    rfl

lemma readSource_spec {result : Except String IR.Module}
    (h : (readSource path).run.run s = (.ok result, s')) :
    result.toOption = moduleAt? s.files path ∧ s' = s := by
  obtain ⟨t, s₁, htree, h⟩ := of_run_bind h
  cases htree
  obtain ⟨file, s₂, hread, h⟩ := of_run_bind h
  unfold orFault at hread
  split at hread
  · rename_i hfile
    cases hread
    unfold moduleAt?
    rw [file?_of_read hfile, Option.bind_some]
    dsimp only at h
    split at h
    · rename_i hparse
      cases h
      rw [hparse]
      exact ⟨rfl, rfl⟩
    · rename_i hparse
      split at h
      · cases h
        rw [hparse]
        exact ⟨rfl, rfl⟩
      · cases h
  · cases hread

variable {modules : List String} {m : IR.Module}

/-- The source files of a list that can be taken over, with their modules. -/
def modulesAt (t : Tree) (paths : List String) : List (String × IR.Module) :=
  paths.filterMap fun path => (moduleAt? t path).map (path, ·)

lemma mapM_spec {f : α → Shell β} {g : Tree → α → β}
    (hf : ∀ ⦃a s b s'⦄, (f a).run.run s = (.ok b, s') →
      b = g s.files a ∧ s'.files = s.files ∧ s'.registry = s.registry)
    {l : List α} {bs : List β} (h : (l.mapM f).run.run s = (.ok bs, s')) :
    bs = l.map (g s.files) ∧ s'.files = s.files ∧ s'.registry = s.registry := by
  induction l generalizing s bs with
  | nil =>
    cases h
    exact ⟨rfl, rfl, rfl⟩
  | cons a l ih =>
    rw [mapM_cons] at h
    obtain ⟨b, s₁, hfirst, h⟩ := of_run_bind h
    obtain ⟨rest, s₂, hrest, h⟩ := of_run_bind h
    cases h
    obtain ⟨rfl, hfiles, hregistry⟩ := hf hfirst
    obtain ⟨rfl, hfiles', hregistry'⟩ := ih hrest
    rw [hfiles] at hfiles'
    exact ⟨by rw [hfiles, map_cons], hfiles', hregistry'.trans hregistry⟩

lemma readNext_spec {found : Option (String × IR.Module)}
    (h : (readNext path).run.run s = (.ok found, s')) :
    found = (moduleAt? s.files path).map (path, ·) ∧ s'.files = s.files ∧
      s'.registry = s.registry := by
  obtain ⟨result, s₁, hsource, hrest⟩ := of_run_bind h
  obtain ⟨hmodule, rfl⟩ := readSource_spec hsource
  rw [← hmodule]
  split at hrest
  · cases hrest
    exact ⟨rfl, rfl, rfl⟩
  · cases hrest
    exact ⟨rfl, rfl, rfl⟩

lemma readSources_spec {paths : List String} {read : List (String × IR.Module)}
    (h : (readSources o paths).run.run s = (.ok read, s')) :
    read = modulesAt s.files paths ∧ s'.files = s.files ∧ s'.registry = s.registry := by
  obtain ⟨found, s₁, hfound, hrest⟩ := of_run_bind h
  cases hrest
  have hspec := mapM_spec (g := fun t path => (moduleAt? t path).map (path, ·)) ?_ hfound
  · obtain ⟨rfl, hfiles, hregistry⟩ := hspec
    refine ⟨?_, hfiles, hregistry⟩
    rw [filterMap_map]
    rfl
  · intro path s found s' h
    dsimp only at h
    split at h
    · obtain ⟨_, s₁, hsay, hnext⟩ := of_run_bind h
      obtain ⟨hfiles, hregistry⟩ := Prints.say _ hsay
      rw [← hfiles, ← hregistry]
      exact readNext_spec hnext
    · exact readNext_spec h

/-! ### Code -/

lemma rustOf_spec (h : (rustOf m modules).run.run s = (.ok text, s')) :
    (transpile s.registry m modules none).1 = .ok text ∧ s.Keeps nowhere s' := by
  obtain ⟨s₀, s₁, hget, h⟩ := of_run_bind h
  cases hget
  rcases hcode : transpile s.registry m modules none with ⟨result, registry⟩
  have hpackages := packages_transpile s.registry m modules none
  rw [hcode] at h hpackages
  obtain ⟨_, s₂, hmodify, h⟩ := of_run_bind h
  cases hmodify
  cases result with
  | ok code =>
    cases h
    exact ⟨rfl, hpackages, .refl _⟩
  | error error =>
    dsimp only at h
    split at h <;> cases h

lemma checked_spec (hformat : o.format = false) {source : String}
    (h : (checked o source code).run.run s = (.ok text, s')) :
    text = code ∧ s.Keeps nowhere s' := by
  obtain ⟨s₀, s₁, hget, h⟩ := of_run_bind h
  cases hget
  split at h
  · cases h
  · rw [hformat, if_neg Bool.false_ne_true] at h
    obtain ⟨_, s₂, hsay, hrest⟩ := of_run_bind h
    cases hrest
    exact ⟨rfl, Prints.keeps (Prints.sayIf _ _) hsay _⟩
  · obtain ⟨_, s₂, hsay, hrest⟩ := of_run_bind h
    cases hrest
    exact ⟨rfl, Prints.keeps (Prints.sayIf _ _) hsay _⟩

/-! ### Modules -/

def moduleFileName (path : String) : String :=
  if moduleNameOf path == "__init__" then "mod.rs" else s!"{moduleNameOf path}.rs"

lemma slash_notMem_moduleNameOf (path : String) : '/' ∉ (moduleNameOf path).toList := by
  intro hmem
  have hchars : '/' ∈ Text.replaceChars ['-'] ['_'] 0 (Path.stem path).toList := by
    simpa [moduleNameOf, Text.replaceAll] using hmem
  rcases Text.mem_of_mem_replaceChars hchars with hnew | hstem
  · exact absurd hnew (by decide)
  · exact Path.slash_notMem_name path (Path.stem_subset_name path hstem)

lemma isName_moduleFileName (path : String) : Path.IsName (moduleFileName path) := by
  unfold moduleFileName
  split
  · exact Path.isName_of_length (by decide) (by decide)
  · apply Path.isName_of_length
    · show '/' ∉ (moduleNameOf path ++ ".rs").toList
      simp [slash_notMem_moduleNameOf]
    · show 2 < (moduleNameOf path ++ ".rs").length
      have hending : ".rs".length = 3 := rfl
      rw [String.length_append]
      omega

lemma endsIn_moduleFile (code path : String) :
    Path.EndsIn (moduleFile code path) (moduleFileName path) :=
  Path.endsIn_join_name code (isName_moduleFileName path)

lemma writeModule_spec (hformat : o.format = false)
    (h : (writeModule o code modules path m).run.run s = (.ok text, s')) :
    (transpile s.registry m modules none).1 = .ok text ∧
      s'.files.file? (moduleFile code path) = some { text } ∧
      s.Keeps (· = moduleFileName path) s' := by
  obtain ⟨rust, s₁, hrust, h⟩ := of_run_bind h
  obtain ⟨_, s₂, hchecked, h⟩ := of_run_bind h
  obtain ⟨_, s₃, hwrite, h⟩ := of_run_bind h
  cases h
  obtain ⟨htranspile, hkeeps₁⟩ := rustOf_spec hrust
  obtain ⟨rfl, hkeeps₂⟩ := checked_spec hformat hchecked
  obtain ⟨hfile, hkeeps₃⟩ := writeTold_spec (endsIn_moduleFile code path) hwrite
  exact ⟨htranspile, hfile, (hkeeps₁.of_nowhere.trans hkeeps₂.of_nowhere).trans hkeeps₃⟩

/-- The code of a module is in its file, if no later module has a file of the same name. -/
lemma writeModules_spec (hformat : o.format = false) {texts : List String}
    {pairs : List (String × IR.Module)}
    (h : (pairs.mapM fun (path, m) => writeModule o code modules path m).run.run s =
      (.ok texts, s')) : s.Keeps (· ∈ pairs.map fun pair => moduleFileName pair.1) s' ∧
      ∀ before path m after, pairs = before ++ (path, m) :: after →
        (∀ pair ∈ after, moduleFileName pair.1 ≠ moduleFileName path) →
        ∃ text, (transpile s.registry m modules none).1 = .ok text ∧
          s'.files.file? (moduleFile code path) = some { text } := by
  induction pairs generalizing s texts with
  | nil =>
    cases h
    exact ⟨.refl _, by simp⟩
  | cons pair pairs ih =>
    rw [mapM_cons] at h
    obtain ⟨text, s₁, hfirst, h⟩ := of_run_bind h
    obtain ⟨rest, s₂, hrest, h⟩ := of_run_bind h
    cases h
    obtain ⟨htext, hfile, hkeeps⟩ := writeModule_spec hformat hfirst
    obtain ⟨hkeeps', hlater⟩ := ih hrest
    refine ⟨?_, ?_⟩
    · refine Session.Keeps.trans (hkeeps.mono ?_) (hkeeps'.mono ?_)
      · intro name hname
        rw [hname, map_cons]
        exact mem_cons_self
      · exact fun name hname => mem_cons_of_mem _ hname
    · intro before path m after hsplit hafter
      cases before with
      | nil =>
        obtain ⟨rfl, rfl⟩ := List.cons.inj hsplit
        refine ⟨text, htext, ?_⟩
        refine hkeeps'.files.file? (endsIn_moduleFile code path) ?_ hfile
        intro hmem
        obtain ⟨pair, hpair, heq⟩ := mem_map.1 hmem
        exact hafter pair hpair heq
      | cons first before =>
        rw [cons_append] at hsplit
        obtain ⟨text', htext', hfile'⟩ :=
          hlater before path m after (List.cons.inj hsplit).2 hafter
        rw [transpile_congr hkeeps.packages] at htext'
        exact ⟨text', htext', hfile'⟩

end Command

end Oxidize
