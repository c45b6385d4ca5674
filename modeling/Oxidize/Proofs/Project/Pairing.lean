import Oxidize.Proofs.Project.Directory

/-!
# Modules and their source files

In a project made from a directory each source file has a file of its name for its code. The modules
that were read are written, in order, for the first of the source files: a source file that cannot
be taken over shifts all modules behind it. So the files hold what their names say exactly when the
source files that can be taken over come first (`transpileDirectory_pairs`).
-/

namespace Oxidize

open List

/-! ## The root of a program -/

namespace Manifest

def mainCall (crate entry : String) : String :=
  if crate = "" then s!"{entry}::main();" else s!"{crate}::{entry}::main();"

lemma programRoot_eq {entry : String} (hentry : entry ≠ "") (crate : String) :
    programRoot (some entry) (some crate) = (if crate = "" then s!"mod {entry};\n\n" else "") ++
        Text.join "\n" (mainFunction (mainCall crate entry)) := by
  unfold programRoot mainCall
  have hsome : (some entry).filter (· != "") = some entry := by simp [hentry]
  rw [hsome]
  by_cases hcrate : crate = ""
  · subst hcrate
    have hjoin : ∀ (line : String) (lines : List String), lines ≠ [] →
        Text.join "\n" ([line, ""] ++ lines) = line ++ "\n\n" ++ Text.join "\n" lines := by
      intro line lines hlines
      unfold Text.join
      rw [String.intercalate_append_of_ne_nil (by simp) hlines]
      simp [String.append_assoc]
    show Text.join "\n" ([s!"mod {entry};", ""] ++ mainFunction s!"{entry}::main();") = _
    rw [hjoin _ _ (by simp [mainFunction]), if_pos rfl, if_pos rfl]
    have hend : toString ";\n\n" = toString ";" ++ "\n\n" := rfl
    rw [hend]
    simp only [String.append_assoc]
  · have hsome' : (some crate).filter (· != "") = some crate := by simp [hcrate]
    rw [hsome', if_neg hcrate, if_neg hcrate]
    simp

end Manifest

namespace Command

variable {s s' : Session} {o : TranspileOptions} {directory : String}

/-! ## Names of source files -/

lemma isSource_of_mem {t : Tree} {path : String} (h : path ∈ sourcesBelow t directory) :
    isSource path = true :=
  (mem_filter.1 (NameSet.mem_sorted.1 h)).2

lemma moduleNameOf_ne_empty {path : String} (h : isSource path = true) :
    moduleNameOf path ≠ "" := by
  unfold isSource at h
  simp only [Bool.and_eq_true, Bool.not_eq_true', any_eq_false] at h
  obtain ⟨⟨hending, -⟩, hstart⟩ := h
  have hname : Text.startsWith (Path.name path) "." = false := by
    unfold Path.name
    cases hlast : (Path.components path).getLast? with
    | none => rfl
    | some last => simpa using hstart last (mem_of_getLast? hlast)
  have hstem := (Path.stem_of_endsWith hending hname).2
  intro hempty
  have hchars : Text.replaceChars ['-'] ['_'] 0 (Path.stem path).toList = [] := by
    simpa [moduleNameOf, Text.replaceAll] using hempty
  exact hstem (by simpa using Text.eq_nil_of_replaceChars (by simp) hchars)

lemma codeFile_eq (o : TranspileOptions) (path : String) :
    codeFile o (moduleFileName path) = moduleFile (Path.join o.output "src") path :=
  rfl

/-- The names of source files do not clash with each other or with the roots. -/
structure PlainNames (paths : List String) : Prop where
  nodup : (paths.map moduleNameOf).Nodup
  plain : ∀ path ∈ paths, moduleNameOf path ∉ ["main", "lib", "mod", "__init__"]

namespace PlainNames

variable {paths : List String} {path other : String}

lemma ne_init (h : PlainNames paths) (hpath : path ∈ paths) : moduleNameOf path ≠ "__init__" := by
  intro hinit
  exact h.plain path hpath (by simp [hinit])

lemma fileName (h : PlainNames paths) (hpath : path ∈ paths) :
    moduleFileName path = moduleNameOf path ++ ".rs" :=
  moduleFileName_of_ne_init (h.ne_init hpath)

lemma path_eq (h : PlainNames paths) (hpath : path ∈ paths) (hother : other ∈ paths)
    (heq : moduleFileName path = moduleFileName other) : path = other := by
  rw [h.fileName hother] at heq
  exact inj_on_of_nodup_map h.nodup hpath hother (moduleNameOf_eq (h.ne_init hpath) _ heq)

lemma not_later (h : PlainNames paths) (hpath : path ∈ paths) : ¬ Later (moduleFileName path) := by
  have hplain := h.plain path hpath
  rintro (hlib | hmain | hmanifest | hlog)
  · simp [moduleNameOf_eq (h.ne_init hpath) "lib" hlib] at hplain
  · simp [moduleNameOf_eq (h.ne_init hpath) "main" hmain] at hplain
  · exact moduleFileName_ne_manifest path hmanifest
  · exact moduleFileName_ne_document path hlog

end PlainNames

/-! ## Pairs -/

def Unwritten (s s' : Session) (path : String) : Prop :=
  ∀ place, s'.files.follow path = .ok place → s'.files.files.get? place = s.files.files.get? place

variable {pair : String × IR.Module}

lemma mem_sourcesBelow_of_written {t : Tree}
    (h : pair ∈ writtenModules o directory t) : pair.1 ∈ sourcesBelow t directory := by
  have hmap : pair.1 ∈ (writtenModules o directory t).map (·.1) := mem_map_of_mem h
  rw [map_fst_writtenModules] at hmap
  exact mem_of_mem_take hmap

lemma mem_sourcesBelow_of_source {t : Tree}
    (h : pair ∈ sourceModules o directory t) : pair.1 ∈ sourcesBelow t directory :=
  (mem_modulesAt.1 h).1

variable {read written : List (String × IR.Module)}

lemma Outcome.holdsCode (h : Outcome o directory read (writtenModules o directory s.files) s s')
    (hnames : PlainNames (sourcesBelow s.files directory))
    (hpair : pair ∈ writtenModules o directory s.files) :
    HoldsCode o read s s' s!"{moduleNameOf pair.1}.rs" pair.2 := by
  obtain ⟨before, after, hsplit⟩ := append_of_mem hpair
  have hpath := mem_sourcesBelow_of_written hpair
  have hlater := hnames.not_later hpath
  have hdistinct : ((writtenModules o directory s.files).map (·.1)).Nodup := by
    rw [map_fst_writtenModules]
    exact hnames.nodup.of_map.sublist (take_sublist _ _)
  have hafter : ∀ other ∈ after, moduleFileName other.1 ≠ moduleFileName pair.1 := by
    intro other hother heq
    have hmem : other ∈ writtenModules o directory s.files := by
      rw [hsplit]
      exact mem_append_right _ (mem_cons_of_mem _ hother)
    have hsame := hnames.path_eq (mem_sourcesBelow_of_written hmem) hpath heq
    rw [hsplit, map_append, map_cons] at hdistinct
    have hnotMem := (nodup_cons.1 (nodup_append.1 hdistinct).2.1).1
    exact hnotMem (hsame ▸ mem_map_of_mem hother)
  have hcode := h.module before pair.1 pair.2 after hsplit hafter
    (fun hlib => hlater (.inl hlib)) (fun hmain => hlater (.inr (.inl hmain)))
  rwa [hnames.fileName hpath] at hcode

lemma Outcome.unwritten (h : Outcome o directory read (writtenModules o directory s.files) s s')
    (hnames : PlainNames (sourcesBelow s.files directory)) {path : String}
    (hpath : path ∈ sourcesBelow s.files directory)
    (hwritten : path ∉ (writtenModules o directory s.files).map (·.1)) :
    Unwritten s s' (codeFile o s!"{moduleNameOf path}.rs") := by
  intro place hfollow
  have hfile : codeFile o s!"{moduleNameOf path}.rs" = codeFile o (moduleFileName path) := by
    rw [hnames.fileName hpath]
    rfl
  rw [hfile, codeFile_eq] at hfollow
  have hname := (Tree.endsIn_of_follow (endsIn_moduleFile _ path) hfollow).name_eq
  refine h.keeps.files.files place ?_
  rw [hname]
  rintro (hmem | hlater)
  · obtain ⟨other, hother, heq⟩ := mem_map.1 hmem
    have hsame := hnames.path_eq (mem_sourcesBelow_of_written hother) hpath heq
    exact hwritten (hsame ▸ mem_map_of_mem hother)
  · exact hnames.not_later hpath hlater

lemma exists_mainModule? (hmain : ∃ pair ∈ written, hasMain pair.2 = true) :
    ∃ pair ∈ written, hasMain pair.2 = true ∧ mainModule? written = some (moduleNameOf pair.1) := by
  obtain ⟨pair, hpair, hhas⟩ := hmain
  obtain ⟨found, hfound⟩ := Option.isSome_iff_exists.1
    (find?_isSome.2 ⟨pair, hpair, hhas⟩ : (written.find? fun pair => hasMain pair.2).isSome)
  have hhas' := find?_some (p := fun pair : String × IR.Module => hasMain pair.2) hfound
  refine ⟨found, mem_of_find?_eq_some hfound, hhas', ?_⟩
  unfold mainModule?
  rw [hfound]
  rfl

/-- After a directory is transpiled, the file of each source file for which a module was written
holds the code of that module. If the source files that can be taken over are the first ones, these
are their own modules, and the program calls a main function that there is; otherwise nothing is
written for one of them. -/
theorem transpileDirectory_pairs (hcheck : o.check = false) (hformat : o.format = false)
    (hrun : (transpileDirectory o directory).run.run s = (.ok (), s'))
    (hnodup : ((sourcesBelow s.files directory).map moduleNameOf).Nodup)
    (hplain : ∀ path ∈ sourcesBelow s.files directory,
      moduleNameOf path ∉ ["main", "lib", "mod", "__init__"]) :
    let paths := sourcesBelow s.files directory
    let read := sourceModules o directory s.files
    (∀ pair ∈ paths.zip (read.map (·.2)),
      HoldsCode o read s s' s!"{moduleNameOf pair.1}.rs" pair.2) ∧
    (read.map (·.1) <+: paths →
      (∀ pair ∈ read, HoldsCode o read s s' s!"{moduleNameOf pair.1}.rs" pair.2) ∧
      ((∃ pair ∈ read, hasMain pair.2 = true) →
        ∃ pair ∈ read, hasMain pair.2 = true ∧ ∃ start text,
          text = start ++ Text.join "\n" (Manifest.mainFunction
            (Manifest.mainCall (projectName o directory) (moduleNameOf pair.1))) ∧
          s'.files.file? (codeFile o "main.rs") = some { text })) ∧
    (¬ read.map (·.1) <+: paths →
      ∃ pair ∈ read, Unwritten s s' (codeFile o s!"{moduleNameOf pair.1}.rs")) := by
  have hnames : PlainNames (sourcesBelow s.files directory) := ⟨hnodup, hplain⟩
  have houtcome := transpileDirectory_spec hcheck hformat hrun
  refine ⟨fun pair hpair => houtcome.holdsCode hnames hpair, fun hprefix => ⟨?_, ?_⟩, fun hprefix => ?_⟩
  · intro pair hpair
    rw [← writtenModules_of_first hprefix] at hpair
    exact houtcome.holdsCode hnames hpair
  · intro hmain
    obtain ⟨pair, hpair, hhas, hentry⟩ := exists_mainModule? hmain
    obtain ⟨text, htext, hfile⟩ := houtcome.program
    have hname := moduleNameOf_ne_empty (isSource_of_mem (mem_sourcesBelow_of_source hpair))
    rw [writtenModules_of_first hprefix, hentry, Manifest.programRoot_eq hname] at htext
    exact ⟨pair, hpair, hhas, _, text, htext, hfile⟩
  · obtain ⟨pair, hpair, hwritten⟩ := exists_notMem_written hnodup.of_map hprefix
    exact ⟨pair, hpair, houtcome.unwritten hnames (mem_sourcesBelow_of_source hpair) hwritten⟩

/-! ## Two source files -/

def mainSource : File where
  text := "def main() -> None:\n    pass\n"
  content? := some <| .table [("_", .str "Module"), ("body", .list [.table
    [("_", .str "FunctionDef"), ("l", .int 1), ("name", .str "main"),
     ("args", .table [("_", .str "arguments")]),
     ("body", .list [.table [("_", .str "Pass"), ("l", .int 2)]]),
     ("returns", .table [("_", .str "Constant"), ("l", .int 1), ("value", .null)])]])]

def brokenSource : File where
  text := "def\n"
  content? := some (.table [("syntax_error", .str "invalid syntax"), ("line", .int 1)])

def twoSources (first second : File) : Session where
  files := { files := [("app/a.py", first), ("app/b.py", second)], directories := ["app"] }

def plainOptions : TranspileOptions where
  output := "out"
  format := false

lemma sourcesBelow_brokenLast :
    sourcesBelow (twoSources mainSource brokenSource).files "app" = ["app/a.py", "app/b.py"] :=
  sourcesBelow_eq (by decide +kernel) (by decide +kernel)

lemma sourcesBelow_brokenFirst :
    sourcesBelow (twoSources brokenSource mainSource).files "app" = ["app/a.py", "app/b.py"] :=
  sourcesBelow_eq (by decide +kernel) (by decide +kernel)

lemma run_twoSources {first second : File}
    (h : sourcesBelow (twoSources first second).files "app" = ["app/a.py", "app/b.py"]) :
    (transpileDirectory plainOptions "app").run.run (twoSources first second) =
      (writeProject plainOptions "app" ["app/a.py", "app/b.py"]).run.run
        (twoSources first second) :=
  run_transpileDirectory rfl rfl rfl h (by simp)

lemma sourceModules_brokenLast :
    ((sourceModules plainOptions "app" (twoSources mainSource brokenSource).files).map (·.1)) =
      ["app/a.py"] := by
  unfold sourceModules
  rw [sourcesBelow_brokenLast]
  decide +kernel

/-- The first source file is taken over, the second one is not: the module is where it belongs, and
the program calls its main function. -/
theorem transpileDirectory_pairs_brokenLast :
    let s := twoSources mainSource brokenSource
    let s' := ((transpileDirectory plainOptions "app").run.run s).2
    let read := sourceModules plainOptions "app" s.files
    read.map (·.1) = ["app/a.py"] ∧
      (∀ pair ∈ read, HoldsCode plainOptions read s s' s!"{moduleNameOf pair.1}.rs" pair.2) ∧
      ∃ pair ∈ read, hasMain pair.2 = true ∧ ∃ start text,
        text = start ++ Text.join "\n" (Manifest.mainFunction
          (Manifest.mainCall (projectName plainOptions "app") (moduleNameOf pair.1))) ∧
        s'.files.file? (codeFile plainOptions "main.rs") = some { text } := by
  have hok : ((transpileDirectory plainOptions "app").run.run
      (twoSources mainSource brokenSource)).1.isOk = true := by
    rw [run_twoSources sourcesBelow_brokenLast]
    decide +kernel
  have hpairs := transpileDirectory_pairs rfl rfl (run_eq_of_isOk hok)
    (by rw [sourcesBelow_brokenLast]; decide +kernel)
    (by rw [sourcesBelow_brokenLast]; decide +kernel)
  have hfirst : (sourceModules plainOptions "app" (twoSources mainSource brokenSource).files).map
      (·.1) <+: sourcesBelow (twoSources mainSource brokenSource).files "app" := by
    rw [sourceModules_brokenLast, sourcesBelow_brokenLast]
    decide
  have hmain : (sourceModules plainOptions "app" (twoSources mainSource brokenSource).files).any
      (fun pair => hasMain pair.2) = true := by
    unfold sourceModules
    rw [sourcesBelow_brokenLast]
    decide +kernel
  obtain ⟨hholds, hcalls⟩ := hpairs.2.1 hfirst
  exact ⟨sourceModules_brokenLast, hholds, hcalls (any_eq_true.1 hmain)⟩

/-- The first source file is not taken over, the second one is: its module is not in the file of its
name, and the program calls the main function of a module that there is not. -/
theorem transpileDirectory_mispairs_brokenFirst :
    let s := twoSources brokenSource mainSource
    let outcome := (transpileDirectory plainOptions "app").run.run s
    outcome.1 = .ok () ∧
      (sourcesBelow s.files "app").map moduleNameOf = ["a", "b"] ∧
      (sourceModules plainOptions "app" s.files).map (·.1) = ["app/b.py"] ∧
      outcome.2.files.file? (codeFile plainOptions "b.rs") = none ∧
      (outcome.2.files.file? (codeFile plainOptions "main.rs")).map (·.text) =
        some "fn main() \x7b\n    app::a::main();\n\x7d" := by
  have hok : ((transpileDirectory plainOptions "app").run.run
      (twoSources brokenSource mainSource)).1.isOk = true := by
    rw [run_twoSources sourcesBelow_brokenFirst]
    decide +kernel
  refine ⟨congrArg Prod.fst (run_eq_of_isOk hok), ?_, ?_, ?_, ?_⟩
  · rw [sourcesBelow_brokenFirst]
    decide +kernel
  · unfold sourceModules
    rw [sourcesBelow_brokenFirst]
    decide +kernel
  · rw [run_twoSources sourcesBelow_brokenFirst]
    decide +kernel
  · rw [run_twoSources sourcesBelow_brokenFirst]
    decide +kernel

end Command

end Oxidize
