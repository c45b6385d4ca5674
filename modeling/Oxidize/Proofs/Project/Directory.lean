import Oxidize.Proofs.Project.Writing

/-!
# Transpiling a directory

The source files below a directory become the modules of one project. After the code of the modules,
the roots of the library and of the program are written, then the manifest and the log. None of
these has the name of a module's file, except that a module may be called like a root.
-/

namespace Oxidize.Command

open Stopping List

variable {s s' : Session} {o : TranspileOptions} {directory : String}

/-! ## What is read and written -/

/-- The source files below a directory that can be taken over, with their modules, as they are read
once the directories of the project are made. -/
def sourceModules (o : TranspileOptions) (directory : String) (t : Tree) :
    List (String × IR.Module) :=
  modulesAt (projectTree o t) (sourcesBelow t directory)

/-- The source files with the modules that are written into their files. -/
def writtenModules (o : TranspileOptions) (directory : String) (t : Tree) :
    List (String × IR.Module) :=
  (sourcesBelow t directory).zip ((sourceModules o directory t).map (·.2))

lemma startLog_spec {command name : String}
    (h : (startLog command name).run.run s = (.ok (), s')) :
    s'.files = s.files ∧ s'.registry.packages = s.registry.packages := by
  cases h
  exact ⟨rfl, rfl⟩

lemma getLast?_moduleFileName (path : String) :
    (moduleFileName path).toList.getLast? = some 's' := by
  unfold moduleFileName
  split
  · rfl
  · show (moduleNameOf path ++ ".rs").toList.getLast? = some 's'
    rw [String.toList_append, getLast?_append_of_ne_nil _ (by decide)]
    rfl

lemma moduleFileName_ne_manifest (path : String) : moduleFileName path ≠ "Cargo.toml" := by
  intro h
  have hlast := getLast?_moduleFileName path
  rw [h] at hlast
  exact absurd hlast (by decide)

lemma moduleFileName_ne_document (path : String) :
    ¬ Text.endsWith (moduleFileName path) ".json" = true := by
  intro h
  obtain ⟨u, hu⟩ := isSuffixOf_iff_suffix.1 h
  have hlast := getLast?_moduleFileName path
  rw [← hu, getLast?_append_of_ne_nil _ (by decide)] at hlast
  exact absurd hlast (by decide)

variable {path : String}

lemma moduleFileName_of_ne_init (h : moduleNameOf path ≠ "__init__") :
    moduleFileName path = moduleNameOf path ++ ".rs" := by
  unfold moduleFileName
  rw [if_neg (by simpa using h)]
  rfl

lemma moduleNameOf_eq (hinit : moduleNameOf path ≠ "__init__") (name : String)
    (h : moduleFileName path = name ++ ".rs") : moduleNameOf path = name := by
  rwa [moduleFileName_of_ne_init hinit, String.append_left_inj] at h

def codeFile (o : TranspileOptions) (name : String) : String :=
  Path.join (Path.join o.output "src") name

/-- A file of the code holds the code of a module, written among the modules read. -/
def HoldsCode (o : TranspileOptions) (read : List (String × IR.Module)) (s s' : Session)
    (name : String) (m : IR.Module) : Prop :=
  ∃ text, (transpile s.registry m (NameSet.ofList (declaredNames read)) none).1 = .ok text ∧
    s'.files.file? (codeFile o name) = some { text }

def Later (name : String) : Prop :=
  name = "lib.rs" ∨ name = "main.rs" ∨ name = "Cargo.toml" ∨ Text.endsWith name ".json" = true

/-- What the transpilation of a directory leaves behind: the code of modules, each in the file of
the source file it is written for, and the roots of the library and of the program. -/
structure Outcome (o : TranspileOptions) (directory : String)
    (read written : List (String × IR.Module)) (s s' : Session) : Prop where
  keeps : s.Keeps (fun name => name ∈ written.map (fun pair => moduleFileName pair.1) ∨ Later name) s'
  /-- The code of a module is in its file, if nothing of the same name is written later. -/
  module : ∀ before path m after, written = before ++ (path, m) :: after →
    (∀ pair ∈ after, moduleFileName pair.1 ≠ moduleFileName path) →
    moduleFileName path ≠ "lib.rs" → moduleFileName path ≠ "main.rs" →
    HoldsCode o read s s' (moduleFileName path) m
  library : declaredNames read ≠ [] →
    ∃ text, text = libraryText (declaredNames read) (read.map (·.2)) ∧
      s'.files.file? (codeFile o "lib.rs") = some { text }
  program : ∃ text, text = Manifest.programRoot (mainModule? written) (some (projectName o directory)) ∧
    s'.files.file? (codeFile o "main.rs") = some { text }

/-! ## Sources and modules -/

variable {t : Tree} {paths : List String}

/-- Source files that are found in ascending order stay in this order. -/
lemma sourcesBelow_eq (h : (pathsBelow t directory).filter isSource = paths)
    (hsorted : paths.Pairwise fun a b => decide (a ≤ b) = true) :
    sourcesBelow t directory = paths := by
  unfold sourcesBelow
  rw [h]
  exact mergeSort_of_pairwise hsorted

lemma map_fst_modulesAt_sublist (t : Tree) (paths : List String) :
    ((modulesAt t paths).map (·.1)).Sublist paths := by
  unfold modulesAt
  induction paths with
  | nil => exact List.Sublist.slnil
  | cons path paths ih =>
    rw [filterMap_cons]
    cases moduleAt? t path with
    | none => exact ih.cons path
    | some m => exact ih.cons_cons path

lemma mem_modulesAt {m : IR.Module} :
    (path, m) ∈ modulesAt t paths ↔ path ∈ paths ∧ moduleAt? t path = some m := by
  unfold modulesAt
  simp only [mem_filterMap, Option.map_eq_some_iff, Prod.mk.injEq]
  constructor
  · rintro ⟨_, hpath, m', hm, rfl, rfl⟩
    exact ⟨hpath, hm⟩
  · rintro ⟨hpath, hm⟩
    exact ⟨path, hpath, m, hm, rfl, rfl⟩

lemma map_fst_writtenModules (o : TranspileOptions) (directory : String) (t : Tree) :
    (writtenModules o directory t).map (·.1) =
      (sourcesBelow t directory).take (sourceModules o directory t).length := by
  unfold writtenModules
  rw [← length_map (·.2)]
  generalize (sourceModules o directory t).map (·.2) = modules
  induction sourcesBelow t directory generalizing modules with
  | nil => simp
  | cons path paths ih =>
    cases modules with
    | nil => rfl
    | cons m modules => simp [ih]

/-- If the source files that can be taken over are the first ones, each module is written into the
file of its own source file. -/
lemma writtenModules_of_first
    (h : (sourceModules o directory t).map (·.1) <+: sourcesBelow t directory) :
    writtenModules o directory t = sourceModules o directory t := by
  obtain ⟨rest, hrest⟩ := h
  unfold writtenModules
  rw [← hrest]
  have hnil : (sourceModules o directory t).map (·.2) =
      (sourceModules o directory t).map (·.2) ++ [] := (append_nil _).symm
  rw [hnil, zip_append (by simp), zip_nil_right, append_nil]
  exact (zip_of_prod rfl rfl).symm

/-- If the source files that can be taken over are not the first ones, nothing is written for one of
them. -/
lemma exists_notMem_written (hpaths : (sourcesBelow t directory).Nodup)
    (h : ¬ (sourceModules o directory t).map (·.1) <+: sourcesBelow t directory) :
    ∃ pair ∈ sourceModules o directory t, pair.1 ∉ (writtenModules o directory t).map (·.1) := by
  by_contra hall
  push Not at hall
  rw [map_fst_writtenModules] at hall
  set paths := sourcesBelow t directory with hsources
  set n := (sourceModules o directory t).length with hn
  have hsublist : ((sourceModules o directory t).map (·.1)).Sublist
      (paths.take n ++ paths.drop n) := by
    rw [take_append_drop]
    exact map_fst_modulesAt_sublist _ _
  obtain ⟨first, rest, hsplit, hfirst, hrest⟩ := sublist_append_iff.1 hsublist
  -- What is taken from behind the first `n` paths would stand among them as well.
  have hnil : rest = [] := by
    refine eq_nil_iff_forall_not_mem.2 fun path hpath => ?_
    have hread : path ∈ (sourceModules o directory t).map (·.1) := by
      rw [hsplit]
      exact mem_append_right _ hpath
    obtain ⟨pair, hpair, rfl⟩ := mem_map.1 hread
    have hdisjoint := disjoint_take_drop hpaths (Nat.le_refl n)
    exact hdisjoint (hall pair hpair) (hrest.subset hpath)
  rw [hnil, append_nil] at hsplit
  have hle : n ≤ paths.length := by
    have := (map_fst_modulesAt_sublist (projectTree o t) paths).length_le
    rwa [length_map] at this
  have heq : first = paths.take n := by
    refine hfirst.eq_of_length ?_
    rw [← hsplit, length_map, length_take, Nat.min_eq_left hle]
  exact h (hsplit.trans heq ▸ take_prefix n paths)

/-! ## Steps -/

/-- A run without a log and without comments goes straight to the project. -/
lemma run_transpileDirectory (hlog : o.log = false)
    (hverbose : o.verbose = false) (hcheck : o.check = false)
    (hpaths : sourcesBelow s.files directory = paths) (hne : paths.isEmpty = false) :
    (transpileDirectory o directory).run.run s = (writeProject o directory paths).run.run s := by
  subst hpaths
  rw [transpileDirectory, hlog, hverbose, hcheck]
  have htree : (tree : Shell Tree).run.run s = (.ok s.files, s) := rfl
  have hskip : ∀ x : Shell Unit, (onlyIf false x).run.run s = (.ok (), s) := fun _ => rfl
  rw [run_bind_ok (hskip _), run_bind_ok htree]
  dsimp only
  rw [hne, run_bind_ok (hskip _), run_bind_ok (hskip _), if_neg Bool.false_ne_true]

lemma run_eq_of_isOk {x : Shell Unit} (h : (x.run.run s).1.isOk = true) :
    x.run.run s = (.ok (), (x.run.run s).2) := by
  rcases hrun : x.run.run s with ⟨result, s'⟩
  rw [hrun] at h
  cases result with
  | ok a => rfl
  | error stop => cases h

/-! ## What the steps leave behind -/

lemma onlyIf_spec {taken : Bool} {x : Shell Unit} {P : Session → Prop} (hskip : P s)
    (hx : x.run.run s = (.ok (), s') → P s')
    (h : (onlyIf taken x).run.run s = (.ok (), s')) : P s' := by
  cases taken with
  | true => exact hx h
  | false =>
    cases h
    exact hskip

lemma isName_libraryFile : Path.IsName "lib.rs" :=
  Path.isName_of_length (by decide) (by decide)

lemma isName_programFile : Path.IsName "main.rs" :=
  Path.isName_of_length (by decide) (by decide)

lemma finishProject_spec {code : String} {read written : List (String × IR.Module)}
    {texts : List String}
    (h : (finishProject o directory code read written texts).run.run s = (.ok (), s')) :
    s.Keeps Later s' ∧
    (declaredNames read ≠ [] → ∃ text, text = libraryText (declaredNames read) (read.map (·.2)) ∧
      s'.files.file? (Path.join code "lib.rs") = some { text }) ∧
    ∃ text, text = Manifest.programRoot (mainModule? written) (some (projectName o directory)) ∧
      s'.files.file? (Path.join code "main.rs") = some { text } := by
  obtain ⟨_, s₁, hlibrary, h⟩ := of_run_bind h
  obtain ⟨_, s₂, hprogram, h⟩ := of_run_bind h
  obtain ⟨_, s₃, hmanifest, h⟩ := of_run_bind h
  obtain ⟨_, s₄, hlog, htell⟩ := of_run_bind h
  have hlater :
      s₂.Keeps (fun name => name = "Cargo.toml" ∨ Text.endsWith name ".json" = true) s' := by
    refine ((writeManifest_spec hmanifest).mono fun _ => .inl).trans ?_
    refine ((saveLogTold_spec hlog).mono fun _ => .inr).trans ?_
    exact Prints.keeps (Prints.say _) htell _
  obtain ⟨hfile, hkeeps⟩ := writeTold_spec (Path.endsIn_join_name code isName_programFile) hprogram
  refine ⟨?_, ?_, _, rfl, hlater.files.file? (Path.endsIn_join_name code isName_programFile)
    (by decide) hfile⟩
  · have hfirst : s.Keeps Later s₁ := by
      refine onlyIf_spec (P := s.Keeps Later) (.refl s) (fun hwrite => ?_) hlibrary
      exact (writeTold_spec (Path.endsIn_join_name code isName_libraryFile) hwrite).2.mono
        fun _ => .inl
    refine hfirst.trans ((hkeeps.mono fun _ hname => .inr (.inl hname)).trans ?_)
    exact hlater.mono fun _ hname => .inr (.inr hname)
  · intro hnames
    have htaken : (!(declaredNames read).isEmpty) = true := by simpa using hnames
    rw [htaken] at hlibrary
    obtain ⟨hfile', -⟩ := writeTold_spec (Path.endsIn_join_name code isName_libraryFile) hlibrary
    refine ⟨_, rfl, ?_⟩
    refine hlater.files.file? (Path.endsIn_join_name code isName_libraryFile) (by decide) ?_
    exact hkeeps.files.file? (Path.endsIn_join_name code isName_libraryFile) (by decide) hfile'

lemma writeProject_spec (hformat : o.format = false)
    (hpaths : paths = sourcesBelow s.files directory)
    (h : (writeProject o directory paths).run.run s = (.ok (), s')) :
    Outcome o directory (sourceModules o directory s.files)
      (writtenModules o directory s.files) s s' := by
  obtain ⟨code, s₁, hmake, h⟩ := of_run_bind h
  obtain ⟨read, s₂, hread, h⟩ := of_run_bind h
  obtain ⟨texts, s₃, hmodules, h⟩ := of_run_bind h
  obtain ⟨rfl, hfiles₁, hregistry₁⟩ := makeProject_spec hmake
  obtain ⟨hreadEq, hfiles₂, hregistry₂⟩ := readSources_spec hread
  obtain ⟨hkeeps, hcode⟩ := writeModules_spec hformat hmodules
  obtain ⟨hkeeps', hlibrary, hprogram⟩ := finishProject_spec h
  have hsources : read = sourceModules o directory s.files := by
    rw [hreadEq, hfiles₁, hpaths]
    rfl
  have hwritten : paths.zip (read.map (·.2)) = writtenModules o directory s.files := by
    rw [hpaths, hsources]
    rfl
  rw [hwritten] at hcode hprogram hkeeps
  rw [hsources] at hcode hlibrary
  refine ⟨?_, ?_, hlibrary, hprogram⟩
  · have hmade : s.Keeps nowhere s₁ := by
      refine ⟨by rw [hregistry₁], ?_⟩
      rw [hfiles₁]
      exact keeps_projectTree o s.files _
    have hsame : s₁.Keeps nowhere s₂ := ⟨by rw [hregistry₂], hfiles₂ ▸ .refl _⟩
    exact (hmade.trans hsame).of_nowhere.trans
      ((hkeeps.mono fun _ => .inl).trans (hkeeps'.mono fun _ => .inr))
  · intro before path m after hsplit hafter hlib hmain
    obtain ⟨text, htext, hfile⟩ := hcode before path m after hsplit hafter
    rw [hregistry₂, hregistry₁] at htext
    refine ⟨text, htext, hkeeps'.files.file? (endsIn_moduleFile _ path) ?_ hfile⟩
    rintro (hname | hname | hname | hname)
    · exact hlib hname
    · exact hmain hname
    · exact moduleFileName_ne_manifest path hname
    · exact moduleFileName_ne_document path hname

lemma transpileDirectory_spec (hcheck : o.check = false) (hformat : o.format = false)
    (h : (transpileDirectory o directory).run.run s = (.ok (), s')) :
    Outcome o directory (sourceModules o directory s.files)
      (writtenModules o directory s.files) s s' := by
  rw [transpileDirectory] at h
  obtain ⟨_, s₁, hlog, h⟩ := of_run_bind h
  obtain ⟨t, s₂, htree, h⟩ := of_run_bind h
  cases htree
  obtain ⟨_, s₃, hfound, h⟩ := of_run_bind h
  obtain ⟨_, s₄, htell, h⟩ := of_run_bind h
  rw [hcheck, if_neg Bool.false_ne_true] at h
  obtain ⟨hfiles, hpackages⟩ : s₁.files = s.files ∧
      s₁.registry.packages = s.registry.packages :=
    onlyIf_spec (P := fun s' => s'.files = s.files ∧ s'.registry.packages = s.registry.packages)
      ⟨rfl, rfl⟩ startLog_spec hlog
  obtain ⟨hfiles₃, hregistry₃⟩ : s₃.files = s₁.files ∧ s₃.registry = s₁.registry :=
    onlyIf_spec (P := fun s' => s'.files = s₁.files ∧ s'.registry = s₁.registry)
      ⟨rfl, rfl⟩ (fun hfail => Prints.throw _ hfail) hfound
  obtain ⟨hfiles₄, hregistry₄⟩ := Prints.sayIf _ _ htell
  have hsame : s₄.files = s.files := by rw [hfiles₄, hfiles₃, hfiles]
  have houtcome : Outcome o directory _ _ s₄ s' :=
    writeProject_spec hformat (by rw [hfiles₄, hfiles₃]) h
  rw [hsame] at houtcome
  have hbefore : s.Keeps nowhere s₄ :=
    ⟨by rw [hregistry₄, hregistry₃, hpackages], hsame ▸ .refl _⟩
  refine ⟨hbefore.of_nowhere.trans houtcome.keeps, ?_, houtcome.library, houtcome.program⟩
  intro before path m after hsplit hafter hlib hmain
  obtain ⟨text, htext, hfile⟩ := houtcome.module before path m after hsplit hafter hlib hmain
  rw [transpile_congr hbefore.packages] at htext
  exact ⟨text, htext, hfile⟩

end Oxidize.Command
