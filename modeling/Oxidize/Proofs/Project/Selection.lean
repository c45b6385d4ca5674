import Oxidize.Proofs.Project.Pairing

/-!
# Which source files are taken

The files that are taken are not decided by the tree below the directory alone: a spelling that
goes through a hidden place, or through the directory above, takes none of them. For every tree and
any two spellings of a directory it is shown which files are taken, and exactly when both take the
same (`selectedBelow_spelling_iff`).
-/

namespace Oxidize

open List

namespace Text

lemma infix_append_cons_iff {c : Char} {needle a b : List Char} (hc : c ∉ needle) :
    needle <:+: a ++ c :: b ↔ needle <:+: a ∨ needle <:+: b := by
  constructor
  · rintro ⟨s, u, heq⟩
    rcases append_eq_append_iff.1 heq with ⟨w, ha, -⟩ | ⟨w, hs, hb⟩
    · exact .inl ⟨s, w, ha.symm⟩
    cases w with
    | nil => exact .inl ⟨s, [], by simpa using hs⟩
    | cons d w =>
      obtain ⟨rfl, rfl⟩ := List.cons.inj hb
      rcases append_eq_append_iff.1 hs with ⟨v, -, hneedle⟩ | ⟨v, -, hneedle⟩
      · exact (hc (by simp [hneedle])).elim
      · cases v with
        | nil => exact (hc (mem_of_mem_head? (congrArg head? hneedle.symm))).elim
        | cons e v =>
          obtain ⟨-, rfl⟩ := List.cons.inj hneedle
          exact .inr ⟨v, u, by simp⟩
  · rintro (h | h)
    · exact h.trans (prefix_append _ _).isInfix
    · exact h.trans ((suffix_cons c b).trans (suffix_append _ _)).isInfix

/-- What holds no slash is in a text exactly if it is in one of the parts between slashes. -/
lemma contains_join {needle : String} (hslash : '/' ∉ needle.toList) (hne : needle ≠ "")
    (parts : List String) : contains (join "/" parts) needle = parts.any (contains · needle) := by
  induction parts with
  | nil => simpa [join, contains, hasInfix] using hne
  | cons part parts ih =>
    cases parts with
    | nil => simp [join]
    | cons next parts =>
      rw [any_cons, ← ih, Bool.eq_iff_iff, Bool.or_eq_true]
      unfold contains join
      rw [String.intercalate_cons_cons]
      simp only [hasInfix_iff, String.toList_append, append_assoc]
      exact infix_append_cons_iff hslash

end Text

namespace Path

variable {parts : List String}

lemma splitOn_join (hne : parts ≠ []) (h : ∀ part ∈ parts, IsPart part) :
    Text.splitOn (Text.join "/" parts) "/" = parts := by
  induction parts with
  | nil => exact (hne rfl).elim
  | cons part parts ih =>
    obtain ⟨hpart, hparts⟩ := forall_mem_cons.1 h
    have hsingle := splitOn_of_noSlash hpart.noSlash
    cases parts with
    | nil => simpa [Text.join] using hsingle
    | cons next parts =>
      have hrest := ih (cons_ne_nil _ _) hparts
      unfold Text.join at hrest ⊢
      rw [String.intercalate_cons_cons, splitOn_append, hsingle, hrest]
      rfl

lemma components_slash (path : String) : components ("/" ++ path) = components path := by
  have hsplit := splitOn_append "" path
  rw [String.empty_append] at hsplit
  unfold components
  rw [hsplit, filter_append]
  rfl

lemma contains_slash {needle : String} (hslash : '/' ∉ needle.toList) (hne : needle ≠ "")
    (path : String) : Text.contains ("/" ++ path) needle = Text.contains path needle := by
  rw [Bool.eq_iff_iff]
  unfold Text.contains
  simp only [Text.hasInfix_iff, String.toList_append]
  refine (Text.infix_append_cons_iff (a := []) hslash).trans (or_iff_right ?_)
  simpa using hne

/-- The slashes in front of a path do not count for what does not look at them. -/
lemma apply_build {α : Type} {f : String → α} (hf : ∀ path, f ("/" ++ path) = f path)
    (path : String) (hne : parts ≠ []) (h : ∀ part ∈ parts, IsPart part) :
    f (build (root path) parts) = f (Text.join "/" parts) := by
  have hbuild : build (root path) parts = root path ++ Text.join "/" parts := by
    refine if_neg fun hempty => ?_
    have hjoin : Text.join "/" parts = "" :=
      (String.append_eq_empty_iff.1 (by simpa using hempty)).2
    have hsplit := splitOn_join hne h
    rw [hjoin] at hsplit
    exact (h "" (hsplit ▸ by decide)).ne_empty rfl
  rw [hbuild]
  unfold root
  split
  · rw [show "//" = "/" ++ "/" from rfl, String.append_assoc, hf, hf]
  · split
    · exact hf _
    · rw [String.empty_append]

lemma components_build (path : String) (hne : parts ≠ [])
    (h : ∀ part ∈ parts, IsPart part) : components (build (root path) parts) = parts := by
  rw [apply_build components_slash path hne h]
  unfold components
  rw [splitOn_join hne h, filter_eq_self]
  intro part hpart
  simp [(h part hpart).ne_empty, (h part hpart).ne_dot]

def isShown (path : String) : Bool :=
  !(components path).any (Text.contains · "__pycache__") && !(components path).any (Text.startsWith · ".")

/-- Is the text a relative path without detours? -/
def isPlain (path : String) : Bool :=
  (Text.splitOn path "/").all fun part => part != "" && part != "."

variable {path : String}

lemma components_of_isPlain (h : isPlain path = true) : components path = Text.splitOn path "/" :=
  filter_eq_self.2 (all_eq_true.1 h)

lemma components_ne_nil_of_isPlain (h : isPlain path = true) : components path ≠ [] := by
  rw [components_of_isPlain h]
  exact fun hnil => Text.splitChars_ne_nil _ _ _ (map_eq_nil_iff.1 hnil)

lemma isPlain_append {a b : String} (h : isPlain (a ++ "/" ++ b) = true) :
    isPlain a = true ∧ isPlain b = true := by
  unfold isPlain at h
  rwa [splitOn_append, all_append, Bool.and_eq_true] at h

lemma exists_of_startsWith {start : String} (h : Text.startsWith path start = true) :
    ∃ rest, path = start ++ rest := by
  obtain ⟨rest, hrest⟩ := isPrefixOf_iff_prefix.1 h
  exact ⟨String.ofList rest, String.toList_inj.1 (by simpa using hrest.symm)⟩

lemma root_of_isPlain (h : isPlain path = true) : root path = "" := by
  by_contra hroot
  have hstart : ∃ rest, path = "" ++ "/" ++ rest := by
    unfold root at hroot
    split at hroot
    · rename_i hdouble
      obtain ⟨rest, rfl⟩ := exists_of_startsWith (Bool.and_eq_true_iff.1 hdouble).1
      exact ⟨"/" ++ rest, by rw [← String.append_assoc]; rfl⟩
    · split at hroot
      · rename_i hsingle
        exact exists_of_startsWith hsingle
      · exact (hroot rfl).elim
  obtain ⟨rest, rfl⟩ := hstart
  exact absurd (isPlain_append h).1 (by decide)

lemma isPlain_of_below? {base below : String} (hpath : isPlain path = true)
    (h : below? base path = some below) : isPlain below = true := by
  unfold below? at h
  split at h
  · split at h
    · cases h
    · cases h
      exact hpath
  have hslash : ∃ u, (if Text.endsWith base "/" then base else s!"{base}/") = u ++ "/" := by
    split
    · rename_i hend
      obtain ⟨u, hu⟩ := isSuffixOf_iff_suffix.1 hend
      exact ⟨String.ofList u, String.toList_inj.1 (by simpa using hu.symm)⟩
    · exact ⟨base, rfl⟩
  obtain ⟨u, hu⟩ := hslash
  rw [hu] at h
  unfold Text.dropStart? at h
  split at h
  · rename_i hstart
    obtain ⟨rest, rfl⟩ := exists_of_startsWith hstart
    have hdrop : Text.drop (u ++ "/" ++ rest) (u ++ "/").toList.length = rest := by
      unfold Text.drop
      rw [String.toList_append (s := u ++ "/"), drop_left, String.ofList_toList]
    rw [← Option.some.inj h, hdrop]
    exact (isPlain_append hpath).2
  · cases h

end Path

def Tree.IsPlain (t : Tree) : Prop :=
  ∀ place ∈ t.files.keys ++ t.directories, Path.isPlain place = true

instance (t : Tree) : Decidable t.IsPlain :=
  inferInstanceAs (Decidable (∀ place ∈ _, _))

namespace Command

open Oxidize.Path (components isShown)
open Stopping

/-- Is the path, taken from a directory, one of a source file that is not left out? -/
def isSourceBelow (below : String) : Bool :=
  Text.endsWith (Path.name below) ".py" && isShown below

/-- A file is taken exactly if the path of the directory passes and its path from there does. -/
lemma isSource_join (directory : String) {below : String} (h : Path.isPlain below = true) :
    isSource (Path.join directory below) = (isShown directory && isSourceBelow below) := by
  have hne := Path.components_ne_nil_of_isPlain h
  have hjoin : Path.join directory below =
      Path.build (Path.root directory) (components directory ++ components below) := by
    unfold Path.join
    rw [Path.root_of_isPlain h]
    rfl
  have hparts : ∀ part ∈ components directory ++ components below, Path.IsPart part :=
    fun part hpart => (mem_append.1 hpart).elim Path.isPart_of_mem_components
      Path.isPart_of_mem_components
  have hcomponents := Path.components_build directory (append_ne_nil_of_right_ne_nil _ hne) hparts
  have hcontains : Text.contains (Path.join directory below) "__pycache__" =
      (components directory ++ components below).any (Text.contains · "__pycache__") := by
    rw [hjoin, Path.apply_build (f := (Text.contains · "__pycache__"))
      (Path.contains_slash (by decide) (by decide)) directory
      (append_ne_nil_of_right_ne_nil _ hne) hparts]
    exact Text.contains_join (by decide) (by decide) _
  have hname : Path.name (Path.join directory below) = Path.name below := by
    rw [hjoin]
    unfold Path.name
    rw [hcomponents, getLast?_append_of_ne_nil _ hne]
  unfold isSource isSourceBelow
  rw [hcontains, hname, hjoin, hcomponents]
  unfold isShown
  rw [any_append, any_append, Bool.not_or, Bool.not_or]
  ac_rfl

/-- The paths of the files that are taken, each from the directory. -/
def selectedBelow (t : Tree) (directory : String) : List String :=
  (t.below directory).filter fun below => isSource (Path.join directory below)

lemma sourcesBelow_eq_sorted (t : Tree) (directory : String) :
    sourcesBelow t directory = NameSet.sorted ((selectedBelow t directory).map (Path.join directory)) := by
  unfold sourcesBelow pathsBelow selectedBelow
  rw [filter_map, Function.comp_def]

lemma selectedBelow_eq {t : Tree} (ht : t.IsPlain) (directory : String) :
    selectedBelow t directory =
      if isShown directory then (t.below directory).filter isSourceBelow else [] := by
  have hplain : ∀ below ∈ t.below directory, Path.isPlain below = true := by
    intro below hbelow
    unfold Tree.below at hbelow
    split at hbelow
    · obtain ⟨place, hplace, hfound⟩ := mem_filterMap.1 hbelow
      exact Path.isPlain_of_below? (ht place hplace) hfound
    · cases hbelow
  unfold selectedBelow
  rw [filter_congr fun below hbelow => isSource_join directory (hplain below hbelow)]
  cases isShown directory <;> simp

/-- A directory whose path is hidden is refused, whatever is in it. -/
lemma run_of_not_isShown {s : Session} (hs : s.files.IsPlain) {o : TranspileOptions}
    (hlog : o.log = false) {directory : String} (h : isShown directory = false) :
    (transpileDirectory o directory).run.run s =
      (.error (.refused s!"No Python files found in {directory}"), s) := by
  have hpaths : sourcesBelow s.files directory = [] := by
    rw [sourcesBelow_eq_sorted, selectedBelow_eq hs, h]
    exact mergeSort_nil
  have htree : (tree : Shell Tree).run.run s = (.ok s.files, s) := rfl
  rw [transpileDirectory, hlog, run_bind_ok (rfl : (onlyIf false _).run.run s = (.ok (), s)),
    run_bind_ok htree]
  dsimp only
  rw [hpaths]
  rfl

/-- The files that are taken below a directory are those whose path from the directory passes,
exactly if the path of the directory itself passes or there are none. Two spellings of a directory
take the same files exactly if both pass, neither does, or there are none; and a directory whose
path does not pass is refused. -/
theorem selectedBelow_spelling_iff {s : Session} (hs : s.files.IsPlain) {directory other : String}
    (hplace : s.files.follow? directory = s.files.follow? other) :
    sourcesBelow s.files directory =
        NameSet.sorted ((selectedBelow s.files directory).map (Path.join directory)) ∧
      (selectedBelow s.files directory = (s.files.below directory).filter isSourceBelow ↔
        isShown directory = true ∨ (s.files.below directory).filter isSourceBelow = []) ∧
      (selectedBelow s.files directory = selectedBelow s.files other ↔
        isShown directory = isShown other ∨
          (s.files.below directory).filter isSourceBelow = []) ∧
      (isShown directory = false → ∀ o : TranspileOptions, o.log = false →
        (transpileDirectory o directory).run.run s =
          (.error (.refused s!"No Python files found in {directory}"), s)) := by
  have hbelow : s.files.below other = s.files.below directory := by
    unfold Tree.below
    rw [hplace]
  have hnone (names : List String) : [] = names ↔ names = [] := eq_comm
  refine ⟨sourcesBelow_eq_sorted s.files directory, ?_, ?_,
    fun hhidden o hlog => run_of_not_isShown hs hlog hhidden⟩
  · rw [selectedBelow_eq hs]
    cases isShown directory <;> simp [hnone]
  · rw [selectedBelow_eq hs, selectedBelow_eq hs, hbelow]
    cases isShown directory <;> cases isShown other <;> simp [hnone]

theorem selectedBelow_spelling_twoSources :
    selectedBelow (twoSources mainSource mainSource).files "app" = ["a.py", "b.py"] ∧
      selectedBelow (twoSources mainSource mainSource).files "./app/" = ["a.py", "b.py"] := by
  have hselected : selectedBelow (twoSources mainSource mainSource).files "app" = ["a.py", "b.py"] := by
    decide +kernel
  have hplace : (twoSources mainSource mainSource).files.follow? "./app/" =
      (twoSources mainSource mainSource).files.follow? "app" := by
    decide +kernel
  have hspelling := selectedBelow_spelling_iff (by decide +kernel) hplace
  exact ⟨hselected, (hspelling.2.2.1.2 (.inl (by decide +kernel))).symm.trans hselected⟩

/-- A path through the directory above leads to the same place and takes no file of it. -/
theorem selectedBelow_differs_twoSources :
    let s := twoSources mainSource mainSource
    s.files.follow? "app/../app" = s.files.follow? "app" ∧
      ((transpileDirectory plainOptions "app").run.run s).1 = .ok () ∧
      (transpileDirectory plainOptions "app/../app").run.run s =
        (.error (.refused "No Python files found in app/../app"), s) ∧
      selectedBelow s.files "app" = ["a.py", "b.py"] ∧ selectedBelow s.files "app/../app" = [] := by
  dsimp only
  refine ⟨by decide +kernel, ?_, run_of_not_isShown (by decide +kernel) rfl (by decide +kernel),
    by decide +kernel, by decide +kernel⟩
  have hpaths : sourcesBelow (twoSources mainSource mainSource).files "app" =
      ["app/a.py", "app/b.py"] := sourcesBelow_eq (by decide +kernel) (by decide +kernel)
  have hok : ((transpileDirectory plainOptions "app").run.run
      (twoSources mainSource mainSource)).1.isOk = true := by
    rw [run_twoSources hpaths]
    decide +kernel
  exact congrArg Prod.fst (run_eq_of_isOk hok)

end Command

end Oxidize
