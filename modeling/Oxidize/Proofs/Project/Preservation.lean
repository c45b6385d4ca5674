import Oxidize.Proofs.Project.Pairing

/-!
# Modules that stay

If all source files below a directory can be taken over, each module is written into a file of its
name. The root of the library declares every module as often as its name occurs. A module stays
unless something of the same name is written later: another module, or one of the roots
(`transpileDirectory_preserves`).
-/

namespace Oxidize

open List

/-! ## The root of a library -/

namespace Manifest

/-- The text declares modules of the given names, one on a line, and its other lines declare
nothing. -/
def Declares (text : String) (names : List String) : Prop :=
  ∃ others, text = Text.join "\n" ((names.map fun name => s!"pub mod {name};") ++ others) ++ "\n" ∧
    ∀ line ∈ others, Text.startsWith line "pub mod " = false

/-- The error type of a project stands below the declarations, after an empty line. -/
lemma declares_below {names : List String} (hnames : names ≠ []) {lines : List String}
    (hlines : ∀ line ∈ lines, Text.startsWith line "pub mod " = false) (hne : lines ≠ []) :
    Declares (Text.join "\n" (names.map fun name => s!"pub mod {name};") ++
      ("\n\n" ++ Text.join "\n" lines) ++ "\n") names := by
  refine ⟨"" :: lines, ?_, ?_⟩
  · unfold Text.join
    have hbelow : String.intercalate "\n" ("" :: lines) = "\n" ++ String.intercalate "\n" lines := by
      have happend := String.intercalate_append_of_ne_nil (s := "\n") (l := [""]) (by simp) hne
      simpa using happend
    rw [String.intercalate_append_of_ne_nil (by simpa using hnames) (by simp), hbelow]
    have htwo : "\n\n" = "\n" ++ "\n" := rfl
    rw [htwo]
    simp only [String.append_assoc]
  · intro line hline
    rcases mem_cons.1 hline with rfl | hline
    · rfl
    · exact hlines line hline

lemma join_cons_ne_empty {line : String} (hline : line ≠ "") (lines : List String) :
    Text.join "\n" (line :: lines) ≠ "" := by
  unfold Text.join
  cases lines with
  | nil => simpa using hline
  | cons next lines => simp [String.intercalate_cons_of_ne_nil, hline]

lemma serviceError_cases (modules : List IR.Module) : serviceError modules = "" ∨
      ∃ lines, lines ≠ [] ∧ (∀ line ∈ lines, Text.startsWith line "pub mod " = false) ∧
        serviceError modules ≠ "" ∧ serviceError modules = Text.join "\n" lines := by
  unfold serviceError
  cases servesRequests modules with
  | true =>
    rw [if_pos rfl]
    refine .inr ⟨serviceErrorLines, ?_, ?_, ?_, rfl⟩
    · simp [serviceErrorLines]
    · decide +kernel
    · exact join_cons_ne_empty (by decide) _
  | false => exact .inl rfl

end Manifest

namespace Command

variable {s s' : Session} {o : TranspileOptions} {directory : String}

lemma declares_libraryText {names : List String} (hnames : names ≠ [])
    (modules : List IR.Module) :
    Manifest.Declares (libraryText names modules) (NameSet.sorted names) := by
  have hsorted : NameSet.sorted names ≠ [] := by
    obtain ⟨name, hname⟩ := exists_mem_of_ne_nil names hnames
    exact ne_nil_of_mem (NameSet.mem_sorted.2 hname)
  unfold libraryText Manifest.libraryRoot
  dsimp only
  rcases Manifest.serviceError_cases modules with hnone | ⟨lines, hne, hlines, hsome, heq⟩
  · rw [if_pos (by simpa using hnone)]
    exact ⟨[], by simp, by simp⟩
  · rw [if_neg (by simpa using hsome), heq]
    exact Manifest.declares_below hsorted hlines hne

/-! ## All source files -/

lemma map_fst_modulesAt {t : Tree} {paths : List String}
    (h : ∀ path ∈ paths, (moduleAt? t path).isSome = true) :
    (modulesAt t paths).map (·.1) = paths := by
  have hlength : (modulesAt t paths).length = paths.length := by
    unfold modulesAt
    rw [length_filterMap_eq_countP, countP_eq_length]
    intro path hpath
    rw [Option.isSome_map]
    exact h path hpath
  refine (map_fst_modulesAt_sublist t paths).eq_of_length ?_
  rw [length_map, hlength]

variable {before after : List (String × IR.Module)} {pair : String × IR.Module}

/-- Among modules of different names, no later one takes the file of a module. -/
lemma fileName_ne_of_nodup (hnodup : (declaredNames (before ++ pair :: after)).Nodup)
    (hpair : moduleNameOf pair.1 ≠ "__init__")
    (hmod : moduleNameOf pair.1 = "mod" → ∀ later ∈ after, moduleNameOf later.1 ≠ "__init__")
    {later : String × IR.Module} (hlater : later ∈ after) :
    moduleFileName later.1 ≠ moduleFileName pair.1 := by
  intro heq
  by_cases hinit : moduleNameOf later.1 = "__init__"
  · have hfile : moduleFileName later.1 = "mod" ++ ".rs" := by
      unfold moduleFileName
      rw [hinit]
      rfl
    exact hmod (moduleNameOf_eq hpair "mod" (heq.symm.trans hfile)) later hlater hinit
  · rw [moduleFileName_of_ne_init hpair] at heq
    replace heq := moduleNameOf_eq hinit _ heq
    unfold declaredNames at hnodup
    rw [map_append, map_cons, filter_append, filter_cons_of_pos (by simpa using hpair)] at hnodup
    have hnotMem := (nodup_cons.1 (nodup_append.1 hnodup).2.1).1
    refine hnotMem (mem_filter.2 ⟨?_, by simpa using hpair⟩)
    exact heq ▸ mem_map_of_mem hlater

/-- The code of a module is in the file of its name, if nothing of the same name is written
later. -/
lemma Outcome.holdsCode_of_last {read : List (String × IR.Module)}
    (h : Outcome o directory read read s s') (hsplit : read = before ++ pair :: after)
    (hname : moduleNameOf pair.1 ∉ ["__init__", "main", "lib"])
    (hafter : ∀ later ∈ after, moduleFileName later.1 ≠ moduleFileName pair.1) :
    HoldsCode o read s s' s!"{moduleNameOf pair.1}.rs" pair.2 := by
  have hinit : moduleNameOf pair.1 ≠ "__init__" := fun hinit => hname (by simp [hinit])
  have hcode := h.module before pair.1 pair.2 after hsplit hafter
    (fun hlib => hname (by simp [moduleNameOf_eq hinit "lib" hlib]))
    (fun hmain => hname (by simp [moduleNameOf_eq hinit "main" hmain]))
  rwa [moduleFileName_of_ne_init hinit] at hcode

/-- After a directory whose source files can all be taken over is transpiled, the code of a module
is in the file of its name, unless a root has this name or a later module has the same file; the
root of the library declares the names of the modules. So with different names that are no names of
roots no module is lost, and each is declared once. -/
theorem transpileDirectory_preserves (hcheck : o.check = false) (hformat : o.format = false)
    (hrun : (transpileDirectory o directory).run.run s = (.ok (), s'))
    (hread : ∀ path ∈ sourcesBelow s.files directory,
      (moduleAt? (projectTree o s.files) path).isSome = true) :
    let paths := sourcesBelow s.files directory
    let read := sourceModules o directory s.files
    let names := (paths.map moduleNameOf).filter (· != "__init__")
    read.map (·.1) = paths ∧
    (∀ before pair after, read = before ++ pair :: after →
      moduleNameOf pair.1 ∉ ["__init__", "main", "lib"] →
      (∀ later ∈ after, moduleFileName later.1 ≠ moduleFileName pair.1) →
      HoldsCode o read s s' s!"{moduleNameOf pair.1}.rs" pair.2) ∧
    (names ≠ [] → ∃ text declared, s'.files.file? (codeFile o "lib.rs") = some { text } ∧
      Manifest.Declares text declared ∧ declared.Perm names) ∧
    (names.Nodup → "main" ∉ names → "lib" ∉ names →
      ("mod" ∈ names → "__init__" ∉ paths.map moduleNameOf) →
      ∀ pair ∈ read, moduleNameOf pair.1 ≠ "__init__" →
        HoldsCode o read s s' s!"{moduleNameOf pair.1}.rs" pair.2 ∧
        ∃ text declared, s'.files.file? (codeFile o "lib.rs") = some { text } ∧
          Manifest.Declares text declared ∧ declared.count (moduleNameOf pair.1) = 1) := by
  intro paths read names
  have hpaths : read.map (·.1) = paths := map_fst_modulesAt hread
  have houtcome : Outcome o directory read read s s' := by
    have hspec := transpileDirectory_spec hcheck hformat hrun
    rwa [writtenModules_of_first (hpaths ▸ prefix_refl _)] at hspec
  have hnames : declaredNames read = names := by
    show _ = (paths.map moduleNameOf).filter (· != "__init__")
    rw [← hpaths, map_map]
    rfl
  have hlibrary : names ≠ [] → ∃ text declared,
      s'.files.file? (codeFile o "lib.rs") = some { text } ∧
      Manifest.Declares text declared ∧ declared.Perm names := by
    intro hne
    obtain ⟨text, htext, hfile⟩ := houtcome.library (hnames ▸ hne)
    rw [hnames] at htext
    exact ⟨text, _, hfile, htext ▸ declares_libraryText hne _, mergeSort_perm _ _⟩
  refine ⟨hpaths, fun before pair after => houtcome.holdsCode_of_last, hlibrary, ?_⟩
  intro hnodup hmain hlib hmod pair hpair hinit
  have hname : moduleNameOf pair.1 ∈ names := by
    refine mem_filter.2 ⟨mem_map_of_mem ?_, by simpa using hinit⟩
    exact hpaths ▸ mem_map_of_mem hpair
  constructor
  · obtain ⟨before, after, hsplit⟩ := append_of_mem hpair
    refine houtcome.holdsCode_of_last hsplit ?_ fun later hlater => ?_
    · simp only [mem_cons, not_mem_nil, or_false, not_or]
      exact ⟨hinit, fun heq => hmain (heq ▸ hname), fun heq => hlib (heq ▸ hname)⟩
    · refine fileName_ne_of_nodup (by rwa [← hsplit, hnames]) hinit ?_ hlater
      intro hpairMod other hother hotherInit
      refine hmod (hpairMod ▸ hname) (hotherInit ▸ mem_map_of_mem (f := moduleNameOf) ?_)
      rw [← hpaths, hsplit]
      exact mem_map_of_mem (mem_append_right _ (mem_cons_of_mem _ hother))
  · obtain ⟨text, declared, hfile, hdeclares, hperm⟩ := hlibrary (ne_nil_of_mem hname)
    refine ⟨text, declared, hfile, hdeclares, ?_⟩
    rw [hperm.count_eq]
    exact count_eq_one_of_mem hnodup hname

/-! ## A module called like a root -/

def oneSource (path : String) (file : File) : Session where
  files := { files := [(path, file)], directories := ["app"] }

theorem transpileDirectory_preserves_twoSources :
    let s := twoSources mainSource mainSource
    let s' := ((transpileDirectory plainOptions "app").run.run s).2
    let read := sourceModules plainOptions "app" s.files
    read.map (·.1) = ["app/a.py", "app/b.py"] ∧
      ∀ pair ∈ read, moduleNameOf pair.1 ≠ "__init__" →
        HoldsCode plainOptions read s s' s!"{moduleNameOf pair.1}.rs" pair.2 ∧
        ∃ text declared, s'.files.file? (codeFile plainOptions "lib.rs") = some { text } ∧
          Manifest.Declares text declared ∧ declared.count (moduleNameOf pair.1) = 1 := by
  have hpaths : sourcesBelow (twoSources mainSource mainSource).files "app" =
      ["app/a.py", "app/b.py"] := sourcesBelow_eq (by decide +kernel) (by decide +kernel)
  have hok : ((transpileDirectory plainOptions "app").run.run
      (twoSources mainSource mainSource)).1.isOk = true := by
    rw [run_twoSources hpaths]
    decide +kernel
  have hpreserves := transpileDirectory_preserves rfl rfl (run_eq_of_isOk hok)
    (by rw [hpaths]; decide +kernel)
  refine ⟨hpreserves.1.trans hpaths, hpreserves.2.2.2 ?_ ?_ ?_ ?_⟩ <;> rw [hpaths] <;> decide +kernel

/-- The module of a source file called `main` is lost: the root of the program takes its place. -/
theorem transpileDirectory_loses_main :
    let s := oneSource "app/main.py" mainSource
    let outcome := (transpileDirectory plainOptions "app").run.run s
    let read := sourceModules plainOptions "app" s.files
    outcome.1 = .ok () ∧ read.map (·.1) = sourcesBelow s.files "app" ∧
      (read.map fun pair => ((transpile s.registry pair.2 ["main"] none).1.toOption)) =
        [some "pub fn main() \x7b\n    // pass\n\x7d\n"] ∧
      outcome.2.files.files.keys =
        ["app/main.py", "out/src/main.rs", "out/src/lib.rs", "out/Cargo.toml"] ∧
      ["main.rs", "lib.rs"].map (fun name =>
          (outcome.2.files.file? (codeFile plainOptions name)).map (·.text)) =
        [some "fn main() \x7b\n    app::main::main();\n\x7d", some "pub mod main;\n"] := by
  have hpaths : sourcesBelow (oneSource "app/main.py" mainSource).files "app" = ["app/main.py"] :=
    sourcesBelow_eq (by decide +kernel) (by decide +kernel)
  have hrun : (transpileDirectory plainOptions "app").run.run (oneSource "app/main.py" mainSource) =
      (writeProject plainOptions "app" ["app/main.py"]).run.run (oneSource "app/main.py" mainSource) :=
    run_transpileDirectory rfl rfl rfl hpaths (by simp)
  have hok : ((writeProject plainOptions "app" ["app/main.py"]).run.run
      (oneSource "app/main.py" mainSource)).1.isOk = true := by
    decide +kernel
  dsimp only
  rw [hrun]
  refine ⟨congrArg Prod.fst (run_eq_of_isOk hok), ?_, ?_, ?_, ?_⟩
  · unfold sourceModules
    rw [hpaths]
    decide +kernel
  · unfold sourceModules
    rw [hpaths]
    decide +kernel
  · decide +kernel
  · decide +kernel

end Command

end Oxidize
