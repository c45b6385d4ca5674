import Mathlib.Data.List.Basic
import Oxidize.Files.Tree

/-!
# Places of files

A path that ends in a name leads to a place that ends in it, whatever directories stand before the
name. So writing a file changes only places that end in the name of that file, and files of
different names never take each other's place (`Filing.write_spec`). Making directories changes no
file, and what a path leads to stays where it is (`Tree.follow_mono`).
-/

namespace Oxidize

open List Text

/-! ## Components -/

namespace Text

lemma splitChars_append_cons (c : Char) (a b : List Char) :
    splitChars [c] 0 (a ++ c :: b) = splitChars [c] 0 a ++ splitChars [c] 0 b := by
  induction a with
  | nil => simp [splitChars]
  | cons d a ih =>
    rw [cons_append, splitChars, splitChars, ih]
    have hd : ∀ rest : List Char, [c].isPrefixOf (d :: rest) = (c == d) := by
      intro rest
      simp [List.isPrefixOf]
    rw [hd, hd]
    split
    · rename_i heq
      obtain rfl : c = d := by simpa using heq
      simp [ih]
    · cases hsplit : splitChars [c] 0 a with
      | nil => exact (splitChars_ne_nil _ _ _ hsplit).elim
      | cons piece pieces => simp [consPiece]

variable {a old new : List Char} {c : Char}

lemma splitChars_of_notMem (h : c ∉ a) : splitChars [c] 0 a = [a] := by
  induction a with
  | nil => rfl
  | cons d a ih =>
    obtain ⟨hd, ha⟩ : ¬ c = d ∧ c ∉ a := by simpa using h
    have hne : [c].isPrefixOf (d :: a) = false := by simp [List.isPrefixOf, hd]
    rw [splitChars, hne, ih ha]
    rfl

lemma exists_splitChars_append {b : List Char} (hb : c ∉ b) (a : List Char) :
    ∃ init w, c ∉ w ∧ splitChars [c] 0 (a ++ b) = init ++ [w ++ b] := by
  induction a with
  | nil => exact ⟨[], [], by simp, splitChars_of_notMem hb⟩
  | cons d a ih =>
    obtain ⟨init, w, hw, hsplit⟩ := ih
    rw [cons_append, splitChars, hsplit]
    split
    · exact ⟨[] :: init, w, hw, by simp [hsplit]⟩
    · rename_i hd
      have hne : c ≠ d := by simpa [List.isPrefixOf] using hd
      cases init with
      | nil => exact ⟨[], d :: w, by simp [hne, hw], rfl⟩
      | cons piece pieces => exact ⟨(d :: piece) :: pieces, w, hw, rfl⟩

lemma notMem_of_mem_splitChars {piece : List Char} (h : piece ∈ splitChars [c] 0 a) :
    c ∉ piece := by
  induction a generalizing piece with
  | nil =>
    obtain rfl : piece = [] := by simpa [splitChars] using h
    simp
  | cons d a ih =>
    rw [splitChars] at h
    split at h
    · rcases mem_cons.1 h with rfl | hpiece
      · simp
      · exact ih hpiece
    · rename_i hd
      have hne : c ≠ d := by simpa [List.isPrefixOf] using hd
      cases hsplit : splitChars [c] 0 a with
      | nil => exact (splitChars_ne_nil _ _ _ hsplit).elim
      | cons first rest =>
        rw [hsplit] at h ih
        rcases mem_cons.1 h with rfl | hpiece
        · simp [hne, ih mem_cons_self]
        · exact ih (mem_cons_of_mem _ hpiece)

/-- A text that is cut is what stands before the cut, the separator and what stands after it. -/
lemma eq_append_of_cutChars {sep before after : List Char}
    (h : cutChars sep a = some (before, after)) : a = before ++ (sep ++ after) := by
  induction a generalizing before with
  | nil =>
    rw [cutChars] at h
    split at h
    · rename_i hsep
      cases h
      simpa using hsep
    · cases h
  | cons c a ih =>
    rw [cutChars] at h
    split at h
    · rename_i hsep
      cases h
      exact (prefix_iff_eq_append.1 ( isPrefixOf_iff_prefix.1 hsep)).symm
    · obtain ⟨⟨first, rest⟩, hcut, heq⟩ := Option.map_eq_some_iff.1 h
      cases heq
      rw [ih hcut, cons_append]

lemma mem_of_mem_replaceChars {skip : Nat} (h : c ∈ replaceChars old new skip a) :
    c ∈ new ∨ c ∈ a := by
  fun_induction replaceChars old new skip a with
  | case1 => simp at h
  | case2 skip d a ih => exact (ih h).imp_right (mem_cons_of_mem _)
  | case3 d a hold ih =>
    rcases mem_append.1 h with hnew | hrest
    · exact .inl hnew
    · exact (ih hrest).imp_right (mem_cons_of_mem _)
  | case4 d a hold ih =>
    rcases mem_cons.1 h with rfl | hrest
    · exact .inr mem_cons_self
    · exact (ih hrest).imp_right (mem_cons_of_mem _)

lemma eq_nil_of_replaceChars (hnew : new ≠ []) (h : replaceChars old new 0 a = []) : a = [] := by
  cases a with
  | nil => rfl
  | cons c a =>
    rw [replaceChars] at h
    split at h
    · exact (hnew (append_eq_nil_iff.1 h).1).elim
    · cases h

end Text

namespace Path

structure IsPart (part : String) : Prop where
  noSlash : '/' ∉ part.toList
  ne_empty : part ≠ ""
  ne_dot : part ≠ "."

lemma isPart_of_mem_components {path part : String} (h : part ∈ components path) : IsPart part := by
  obtain ⟨hsplit, hcounts⟩ := mem_filter.1 h
  obtain ⟨piece, hpiece, rfl⟩ := mem_map.1 hsplit
  have hslash : '/' ∉ piece := notMem_of_mem_splitChars hpiece
  simp only [Bool.and_eq_true, bne_iff_ne, ne_eq] at hcounts
  exact ⟨by simpa using hslash, hcounts.1, hcounts.2⟩

lemma splitOn_of_noSlash {name : String} (h : '/' ∉ name.toList) : splitOn name "/" = [name] := by
  have hsplit : splitChars ['/'] 0 name.toList = [name.toList] := splitChars_of_notMem h
  exact (congrArg _ hsplit).trans (by simp)

lemma splitOn_append (a b : String) :
    Text.splitOn (a ++ "/" ++ b) "/" = Text.splitOn a "/" ++ Text.splitOn b "/" := by
  unfold Text.splitOn
  have hchars : (a ++ "/" ++ b).toList = a.toList ++ '/' :: b.toList := by simp
  rw [hchars, ← map_append]
  exact congrArg _ (Text.splitChars_append_cons '/' a.toList b.toList)

/-- A text that is a single component of a path and leads further down. -/
structure IsName (name : String) : Prop where
  noSlash : '/' ∉ name.toList
  ne_empty : name ≠ ""
  ne_dot : name ≠ "."
  ne_dots : name ≠ ".."

lemma IsName.filter {name : String} (h : IsName name) :
    [name].filter (fun part => part != "" && part != ".") = [name] := by
  simp [h.ne_empty, h.ne_dot]

/-- The path ends in a name: nothing or a slash stands before it. -/
structure EndsIn (path name : String) : Prop where
  isName : IsName name
  exists_before : ∃ before, path = before ++ name ∧ (before = "" ∨ ∃ u, before = u ++ "/")

variable {path name : String}

namespace EndsIn

lemma splitOn (h : EndsIn path name) : ∃ init, splitOn path "/" = init ++ [name] := by
  obtain ⟨before, rfl, hbefore⟩ := h.exists_before
  have hname := splitOn_of_noSlash h.isName.noSlash
  rcases hbefore with rfl | ⟨u, rfl⟩
  · exact ⟨[], by rw [String.empty_append, hname, nil_append]⟩
  · exact ⟨splitOn u "/", by rw [splitOn_append, hname]⟩

lemma not_endsWith (h : EndsIn path name) : endsWith path "/" = false := by
  obtain ⟨before, rfl, -⟩ := h.exists_before
  have hne : name.toList ≠ [] := by
    intro hnil
    exact h.isName.ne_empty (by simpa using hnil)
  unfold endsWith
  rw [Bool.eq_false_iff, Ne, isSuffixOf_iff_suffix]
  rintro ⟨u, hu⟩
  have hlast := congrArg getLast? hu
  rw [String.toList_append, getLast?_append_of_ne_nil _ hne] at hlast
  exact h.isName.noSlash (mem_of_getLast? (hlast.symm.trans (by simp)))

lemma steps (h : EndsIn path name) : ∃ init, Path.steps path = init ++ [name] := by
  obtain ⟨init, hsplit⟩ := h.splitOn
  refine ⟨init.filter (· != ""), ?_⟩
  unfold Path.steps
  rw [hsplit, h.not_endsWith, filter_append]
  simp [h.isName.ne_empty]

lemma components (h : EndsIn path name) : ∃ init, Path.components path = init ++ [name] := by
  obtain ⟨init, hsplit⟩ := h.splitOn
  refine ⟨init.filter fun part => part != "" && part != ".", ?_⟩
  unfold Path.components
  rw [hsplit, filter_append, h.isName.filter]

lemma name_eq (h : EndsIn path name) : Path.name path = name := by
  obtain ⟨init, hcomponents⟩ := h.components
  unfold Path.name
  simp [hcomponents]

end EndsIn

lemma root_cases (path : String) : root path = "" ∨ ∃ u, root path = u ++ "/" := by
  unfold root
  split
  · exact .inr ⟨"/", rfl⟩
  · split
    · exact .inr ⟨"", rfl⟩
    · exact .inl rfl

lemma endsIn_build {r : String} (hr : r = "" ∨ ∃ u, r = u ++ "/") (parts : List String)
    (h : IsName name) : EndsIn (build r (parts ++ [name])) name := by
  refine ⟨h, ?_⟩
  have hpath : ∃ before, r ++ Text.join "/" (parts ++ [name]) = before ++ name ∧
      (before = "" ∨ ∃ u, before = u ++ "/") := by
    unfold Text.join
    by_cases hparts : parts = []
    · subst hparts
      exact ⟨r, by simp, hr⟩
    · refine ⟨r ++ String.intercalate "/" parts ++ "/", ?_, .inr ⟨_, rfl⟩⟩
      rw [String.intercalate_append_of_ne_nil hparts (by simp)]
      simp [String.append_assoc]
  obtain ⟨before, hbefore, hcases⟩ := hpath
  have hne : (before ++ name == "") = false := by
    simp [h.ne_empty]
  unfold build
  dsimp only
  rw [hbefore, hne, if_neg (by simp)]
  exact ⟨before, rfl, hcases⟩

lemma endsIn_join (base : String) {below : String} {init : List String}
    (hbelow : components below = init ++ [name]) (h : IsName name) :
    EndsIn (join base below) name := by
  unfold join
  split
  · unfold normal
    rw [hbelow]
    exact endsIn_build (root_cases below) init h
  · rw [hbelow, ← append_assoc]
    exact endsIn_build (root_cases base) _ h

lemma IsName.components (h : IsName name) : Path.components name = [] ++ [name] := by
  unfold Path.components
  rw [splitOn_of_noSlash h.noSlash]
  exact h.filter

lemma endsIn_join_name (base : String) (h : IsName name) : EndsIn (join base name) name :=
  endsIn_join base h.components h

lemma isName_of_length (hslash : '/' ∉ name.toList) (hlength : 2 < name.length) : IsName name := by
  refine ⟨hslash, ?_, ?_, ?_⟩ <;> rintro rfl <;> exact absurd hlength (by decide)

/-! ### Stems -/

lemma slash_notMem_name (path : String) : '/' ∉ (Path.name path).toList := by
  unfold Path.name
  cases hlast : (components path).getLast? with
  | none => simp
  | some last => exact (isPart_of_mem_components (mem_of_getLast? hlast)).noSlash

lemma stem_subset_name (path : String) : (stem path).toList ⊆ (Path.name path).toList := by
  unfold stem nameParts
  dsimp only
  split
  · rename_i before after hcut
    obtain ⟨⟨last, first⟩, hchars, heq⟩ := Option.map_eq_some_iff.1 hcut
    have hname := congrArg List.reverse (eq_append_of_cutChars hchars)
    obtain ⟨rfl, rfl⟩ := Prod.mk.inj heq
    split
    · exact List.Subset.refl _
    · intro c hc
      rw [reverse_reverse] at hname
      rw [hname]
      simp only [String.toList_ofList] at hc
      simp [hc]
  · exact List.Subset.refl _

lemma stem_of_endsWith (hending : endsWith (Path.name path) ".py" = true)
    (hstart : startsWith (Path.name path) "." = false) :
    Path.name path = stem path ++ ".py" ∧ stem path ≠ "" := by
  obtain ⟨u, hu⟩ := isSuffixOf_iff_suffix.1 hending
  have hname : Path.name path = String.ofList u ++ ".py" := by
    apply String.toList_inj.1
    rw [← hu]
    simp
  have hne : u ≠ [] := by
    rintro rfl
    rw [hname] at hstart
    exact absurd hstart (by decide)
  have hcut : cutLast? (Path.name path) "." = some (String.ofList u, "py") := by
    unfold cutLast?
    rw [← hu, reverse_append]
    show (cutChars ['.'] ('y' :: 'p' :: '.' :: u.reverse)).map _ = _
    simp [cutChars]
  have hstem : stem path = String.ofList u := by
    unfold stem nameParts
    dsimp only
    rw [hcut]
    simp [hne]
  rw [hstem]
  exact ⟨hname, by simpa using hne⟩

/-! ### Below a directory -/

/-- A path keeps its ending, whatever directories the text before the ending leads through. -/
lemma exists_endsIn_join (base start ending : String)
    (hslash : '/' ∉ ending.toList) (hlength : 2 < ending.length) :
    ∃ name, EndsIn (join base (start ++ ending)) name ∧ Text.endsWith name ending = true := by
  obtain ⟨init, w, hw, hsplit⟩ := Text.exists_splitChars_append hslash start.toList
  have hname : IsName (String.ofList (w ++ ending.toList)) := by
    apply isName_of_length
    · simp [hw, hslash]
    · simp only [String.length_ofList, length_append, String.length_toList]
      omega
  have hcomponents : components (start ++ ending) =
      (init.map String.ofList).filter (fun part => part != "" && part != ".") ++
        [String.ofList (w ++ ending.toList)] := by
    unfold components Text.splitOn
    rw [String.toList_append]
    show ((Text.splitChars ['/'] 0 _).map String.ofList).filter _ = _
    rw [hsplit, map_append, filter_append]
    exact congrArg _ hname.filter
  refine ⟨_, endsIn_join base hcomponents hname, ?_⟩
  unfold Text.endsWith
  rw [isSuffixOf_iff_suffix, String.toList_ofList]
  exact suffix_append _ _

lemma endsIn_step (place : String) (h : IsName name) : EndsIn (step place name) name := by
  unfold step
  rw [if_neg (by simpa using h.ne_dots)]
  exact endsIn_join_name place h

end Path

/-! ## Places -/

namespace Tree

variable {t t' : Tree} {path place name : String}

lemma holdsDirectory_mono (hdirectories : t.directories ⊆ t'.directories)
    (h : t.holdsDirectory place = true) : t'.holdsDirectory place = true := by
  unfold holdsDirectory at h ⊢
  simp only [Bool.or_eq_true, contains_iff_mem] at h ⊢
  exact h.imp_right fun hmem => hdirectories hmem

lemma enter_mono (hdirectories : t.directories ⊆ t'.directories) {part next : String}
    (h : t.enter path place part = .ok next) : t'.enter path place part = .ok next := by
  unfold enter at h ⊢
  split at h
  · rename_i hplace
    rwa [if_pos (holdsDirectory_mono hdirectories hplace)]
  · split at h <;> cases h

/-- Where a path leads to, it still leads when there are more directories. -/
lemma follow_mono (hdirectories : t.directories ⊆ t'.directories)
    (h : t.follow path = .ok place) : t'.follow path = .ok place := by
  have hsteps : ∀ (parts : List String) (from_ : String),
      parts.foldlM (t.enter path) from_ = .ok place →
        parts.foldlM (t'.enter path) from_ = .ok place := by
    intro parts
    induction parts with
    | nil => exact fun _ h => h
    | cons part parts ih =>
      intro from_ h
      rw [foldlM_cons] at h ⊢
      cases hfirst : t.enter path from_ part with
      | error fault =>
        rw [hfirst] at h
        cases h
      | ok next =>
        rw [hfirst] at h
        rw [enter_mono hdirectories hfirst]
        exact ih next h
  unfold follow at h ⊢
  split at h
  · cases h
  · rename_i hpath
    rw [if_neg hpath]
    exact hsteps _ _ h

lemma endsIn_of_follow (hpath : Path.EndsIn path name) (h : t.follow path = .ok place) :
    Path.EndsIn place name := by
  obtain ⟨init, hsteps⟩ := hpath.steps
  unfold follow at h
  split at h
  · cases h
  rw [hsteps, foldlM_append] at h
  cases hinit : init.foldlM (t.enter path) (Path.start path) with
  | error fault =>
    rw [hinit] at h
    cases h
  | ok above =>
    rw [hinit] at h
    have hlast : t.enter path above name = .ok place := (bind_pure _).symm.trans h
    unfold enter at hlast
    split at hlast
    · cases hlast
      exact Path.endsIn_step above hpath.isName
    · split at hlast <;> cases hlast

lemma file?_eq_some_iff {file : File} : t.file? path = some file ↔
      ∃ place, t.follow path = .ok place ∧ t.files.get? place = some file := by
  unfold file? follow?
  cases t.follow path <;> simp [Except.toOption]

/-- The directories are still there, and files have changed only at places that end in one of the
names. -/
structure Keeps (names : String → Prop) (t t' : Tree) : Prop where
  directories : t.directories ⊆ t'.directories
  files : ∀ place, ¬ names (Path.name place) → t'.files.get? place = t.files.get? place

namespace Keeps

variable {names others : String → Prop}

lemma refl (t : Tree) : t.Keeps names t :=
  ⟨List.Subset.refl _, fun _ _ => rfl⟩

lemma trans {t'' : Tree} (h : t.Keeps names t') (h' : t'.Keeps names t'') : t.Keeps names t'' :=
  ⟨List.Subset.trans h.directories h'.directories, fun place hplace =>
    (h'.files place hplace).trans (h.files place hplace)⟩

lemma mono (h : t.Keeps names t') (hnames : ∀ name, names name → others name) : t.Keeps others t' :=
  ⟨h.directories, fun place hplace => h.files place fun hname => hplace (hnames _ hname)⟩

lemma file? (h : t.Keeps names t') (hpath : Path.EndsIn path name) (hname : ¬ names name)
    {file : File} (hfile : t.file? path = some file) : t'.file? path = some file := by
  obtain ⟨place, hfollow, hget⟩ := file?_eq_some_iff.1 hfile
  refine file?_eq_some_iff.2 ⟨place, follow_mono h.directories hfollow, ?_⟩
  rw [h.files place (by rwa [(endsIn_of_follow hpath hfollow).name_eq]), hget]

end Keeps

end Tree

/-! ## Steps that may stop -/

namespace Stopping

variable {ε σ α β : Type} {x : ExceptT ε (StateM σ) α} {f : α → ExceptT ε (StateM σ) β} {s s' : σ}

lemma run_get : (get : ExceptT ε (StateM σ) σ).run.run s = (.ok s, s) :=
  rfl

lemma run_bind_ok {a : α} (h : x.run.run s = (.ok a, s')) :
    (x >>= f).run.run s = (f a).run.run s' := by
  rw [ExceptT.run_bind, StateT.run_bind, h]
  rfl

lemma run_bind_error {error : ε} (h : x.run.run s = (.error error, s')) :
    (x >>= f).run.run s = (.error error, s') := by
  rw [ExceptT.run_bind, StateT.run_bind, h]
  rfl

lemma of_run_bind {b : β} {s'' : σ} (h : (x >>= f).run.run s = (.ok b, s'')) :
    ∃ a s', x.run.run s = (.ok a, s') ∧ (f a).run.run s' = (.ok b, s'') := by
  rcases hrun : x.run.run s with ⟨result, s'⟩
  cases result with
  | error error =>
    rw [run_bind_error hrun] at h
    cases h
  | ok a =>
    rw [run_bind_ok hrun] at h
    exact ⟨a, s', rfl, h⟩

lemma run_tryCatch {handle : ε → ExceptT ε (StateM σ) α} : (tryCatch x handle).run.run s =
      match x.run.run s with
      | (.ok a, s') => (.ok a, s')
      | (.error error, s') => (handle error).run.run s' := by
  show ((ExceptT.tryCatch x handle).run.run s) = _
  unfold ExceptT.tryCatch
  rw [ExceptT.run_mk, StateT.run_bind]
  show (match (x.run.run s).1 with
    | .ok a => pure (.ok a)
    | .error error => (handle error).run : StateM σ (Except ε α)).run (x.run.run s).2 = _
  rcases x.run.run s with ⟨result, s'⟩
  cases result <;> rfl

end Stopping

/-! ## Steps on a tree -/

namespace Filing

open Stopping

variable {α β : Type} {names : String → Prop}

/-- Steps that change files only at places that end in one of the names. -/
def Touches (names : String → Prop) (x : Filing α) : Prop :=
  ∀ t : Tree, t.Keeps names (x.run.run t).2

namespace Touches

lemma pure (a : α) : Touches names (pure a : Filing α) :=
  fun t => .refl t

lemma throw (fault : FileFault) : Touches names (throw fault : Filing α) :=
  fun t => .refl t

lemma get : Touches names (get : Filing Tree) :=
  fun t => .refl t

variable {x : Filing α}

lemma bind {f : α → Filing β} (hx : Touches names x) (hf : ∀ a, Touches names (f a)) :
    Touches names (x >>= f) := by
  intro t
  have hfirst := hx t
  rcases hrun : x.run.run t with ⟨result, t'⟩
  rw [hrun] at hfirst
  cases result with
  | error fault => rwa [run_bind_error hrun]
  | ok a =>
    rw [run_bind_ok hrun]
    exact hfirst.trans (hf a t')

lemma tryCatch {handle : FileFault → Filing α} (hx : Touches names x)
    (hhandle : ∀ fault, Touches names (handle fault)) : Touches names (tryCatch x handle) := by
  intro t
  have hfirst := hx t
  rw [run_tryCatch]
  rcases hrun : x.run.run t with ⟨result, t'⟩
  rw [hrun] at hfirst
  cases result with
  | ok a => exact hfirst
  | error fault => exact hfirst.trans (hhandle fault t')

end Touches

lemma place_run (t : Tree) (path : String) : (place path).run.run t = (t.follow path, t) := by
  cases hfollow : t.follow path with
  | ok | error =>
    show (orFault (t.follow path)).run.run t = _
    rw [hfollow]
    rfl

/-! ### Directories -/

lemma make_touches (path : String) : Touches names (make path) := by
  intro t
  unfold make
  have hplace := place_run t path
  cases hfollow : t.follow path with
  | error fault =>
    rw [hfollow] at hplace
    rw [run_bind_error hplace]
    exact .refl t
  | ok place =>
    rw [hfollow] at hplace
    rw [run_bind_ok hplace, run_bind_ok run_get]
    split
    · exact .refl t
    · exact ⟨subset_append_left _ _, fun _ _ => rfl⟩

lemma makeIfAbsent_touches (path : String) : Touches names (makeIfAbsent path) := by
  unfold makeIfAbsent
  refine (make_touches path).tryCatch fun fault => ?_
  refine (Touches.get.bind fun t => .pure _).bind fun found => ?_
  split
  · exact .throw _
  · exact .pure ()

lemma makeBelow_touches (root : String) (parts : List String) :
    Touches names (makeBelow root parts) := by
  induction parts with
  | nil => exact .pure ()
  | cons part above ih =>
    rw [makeBelow]
    refine (makeIfAbsent_touches _).tryCatch fun fault => ?_
    split
    · exact ih.bind fun _ => makeIfAbsent_touches _
    · exact .throw _

lemma makeAll_touches (path : String) : Touches names (makeAll path) :=
  makeBelow_touches _ _

/-! ### Files -/

/-- A file that is written is found under its path, and no file of another name has changed. -/
lemma write_spec {t t' : Tree} {path text name : String} (hpath : Path.EndsIn path name)
    (h : (write path text).run.run t = (.ok (), t')) :
    t'.file? path = some { text } ∧ t.Keeps (· = name) t' := by
  obtain ⟨place, t₁, hplace, h⟩ := of_run_bind h
  rw [place_run] at hplace
  obtain ⟨hfollow, rfl⟩ := Prod.mk.inj hplace
  rw [run_bind_ok run_get] at h
  split at h
  · cases h
  · cases h
    have hkeeps : t.Keeps (· = name) { t with files := t.files.set place { text } } := by
      refine ⟨List.Subset.refl _, fun other hother => Table.get?_set_of_ne _ _ ?_⟩
      rintro rfl
      exact hother (Tree.endsIn_of_follow hpath hfollow).name_eq
    refine ⟨?_, hkeeps⟩
    exact Tree.file?_eq_some_iff.2
      ⟨place, Tree.follow_mono hkeeps.directories hfollow, Table.get?_set_self _ _ _⟩

end Filing

end Oxidize
