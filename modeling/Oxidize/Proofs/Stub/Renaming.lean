import Oxidize.Proofs.Package.Paths
import Oxidize.Proofs.Project.Places
import Oxidize.Stub.Package

/-!
# Entries that are handed on under another crate

The lines of an entry are rewritten by their texts. A key or a path gets the other crate if its
first name is the text of the source crate, and is unchanged otherwise; since paths spell a crate
with underscores, this is the right change only for crates without hyphens. In a code every
occurrence of the source crate before `::` is replaced, also at the end of a longer name
(`renameLine_exact_iff`).
-/

namespace Oxidize

open List

namespace Text

variable {old new : List Char}

/-- A text in which every occurrence is replaced is the pieces between the occurrences with the new
text between them. -/
lemma replaceChars_eq_intercalate (skip : Nat) (cs : List Char) :
    replaceChars old new skip cs = new.intercalate (splitChars old skip cs) := by
  induction cs generalizing skip with
  | nil => simp [replaceChars, splitChars]
  | cons c cs ih =>
    cases skip with
    | succ skip => exact ih skip
    | zero =>
      rw [replaceChars, splitChars]
      split
      · obtain ⟨piece, pieces, hpieces⟩ := exists_cons_of_ne_nil
          (splitChars_ne_nil old (old.length - 1) cs)
        rw [ih, hpieces, intercalate_cons_cons, nil_append]
      · rw [ih]
        cases hpieces : splitChars old 0 cs with
        | nil => exact absurd hpieces (splitChars_ne_nil _ _ _)
        | cons piece pieces => cases pieces <;> simp [consPiece]

lemma replaceAll_eq_join (s old new : String) : replaceAll s old new = join new (splitOn s old) := by
  rw [replaceAll, replaceChars_eq_intercalate, join, splitOn, ← String.toList_inj]
  simp

end Text

namespace Stub.Reexport

open Text

/-- The line of an entry that gives a text with this first name. -/
def quotedLine (key first sign rest : String) : String :=
  key ++ " = \"" ++ first ++ sign ++ rest ++ "\""

/-- Has the text no character that ends a name in a key or a path? -/
def IsName (name : String) : Prop :=
  ∀ c ∈ name.toList, c ∉ ['"', ':', '.']

variable {key first other sign rest source target : String}

lemma quotedLine_inj :
    quotedLine key first sign rest = quotedLine key other sign rest ↔ first = other := by
  simp [quotedLine, ← String.toList_inj]

lemma isName_crateIdent (h : IsName source) : IsName (crateIdent source) := by
  intro c hc
  rw [show (crateIdent source).toList = _ from toList_crateIdent source] at hc
  obtain ⟨d, hd, rfl⟩ := mem_map.1 hc
  split
  · decide
  · exact h d hd

/-- A quoted text is changed where it starts with the source and the sign behind it. -/
lemma replaceAll_quotedLine {mark : Char} {more : List Char} (hsign : sign.toList = mark :: more)
    (hmark : mark ∈ [':', '.']) (hmore : '"' ∉ more) (hkey : '"' ∉ key.toList)
    (hsource : IsName source) (hfirst : IsName first) (hrest : '"' ∉ rest.toList) :
    replaceAll (quotedLine key first sign rest) ("\"" ++ source ++ sign) ("\"" ++ target ++ sign) =
      quotedLine key (if first = source then target else first) sign rest := by
  have hquoted (name : String) :
      ("\"" ++ name ++ sign).toList = '"' :: (name.toList ++ mark :: more) := by
    simp [hsign]
  have hline (first : String) : (quotedLine key first sign rest).toList =
      (key.toList ++ [' ', '=', ' ']) ++
        ('"' :: (first.toList ++ mark :: (more ++ rest.toList)) ++ ['"']) := by
    simp [quotedLine, hsign]
  have hstart : '"' ∉ key.toList ++ [' ', '=', ' '] := by simpa using hkey
  have hends {name : String} (h : IsName name) : mark ∉ name.toList :=
    fun hmem => h mark hmem (mem_cons_of_mem _ hmark)
  have hlast (new : List Char) :
      replaceChars ('"' :: (source.toList ++ mark :: more)) new 0 ['"'] = ['"'] := by
    simp [replaceChars, List.isPrefixOf]
  rw [← String.toList_inj, replaceAll, String.toList_ofList, hquoted, hquoted, hline, hline,
    replaceChars_append_of_notMem (c := '"') rfl hstart]
  congr 1
  by_cases heq : first = source
  · have hsplit (name : String) : '"' :: (name.toList ++ mark :: (more ++ rest.toList)) ++ ['"'] =
        '"' :: (name.toList ++ mark :: more) ++ (rest.toList ++ ['"']) := by simp
    rw [if_pos heq, heq, hsplit, hsplit, replaceChars_self (by simp),
      replaceChars_append_of_notMem (c := '"') rfl hrest, hlast]
  · have hbody : '"' ∉ first.toList ++ mark :: (more ++ rest.toList) := by
      have hquote : '"' ∉ first.toList := fun hmem => hfirst '"' hmem (by simp)
      have hne : '"' ≠ mark := by
        rintro rfl
        simp at hmark
      simp [hquote, hne, hmore, hrest]
    rw [if_neg heq, replaceChars_other (hends hsource) (hends hfirst)
      (mt String.toList_inj.1 heq) hbody, hlast]

/-- A key and a path get the other crate if their first name is the text of the source crate. -/
lemma renameLine_quotedLine (hline : (key, sign) ∈ [("python", "."), ("rust", "::")])
    (hsource : IsName source) (hfirst : IsName first) (hrest : '"' ∉ rest.toList) :
    renameLine source target (quotedLine key first sign rest) =
      quotedLine key (if first = source then target else first) sign rest := by
  simp only [mem_cons, Prod.mk.injEq, not_mem_nil, or_false] at hline
  rcases hline with ⟨rfl, rfl⟩ | ⟨rfl, rfl⟩
  · have hkey : startsWith (quotedLine "python" first "." rest) "python = " = true := by
      simp [startsWith, quotedLine]
    rw [renameLine, if_pos hkey]
    exact replaceAll_quotedLine rfl (by decide) (by decide) (by decide) hsource hfirst hrest
  · have hstarts (start : String) : startsWith (quotedLine "rust" first "::" rest) start =
        start.toList.isPrefixOf ("rust = \"".toList ++ (first ++ "::" ++ rest ++ "\"").toList) := by
      simp [startsWith, quotedLine]
    have hpath : renameLine source target (quotedLine "rust" first "::" rest) =
        replaceAll (quotedLine "rust" first "::" rest) ("\"" ++ source ++ "::")
          ("\"" ++ target ++ "::") := by
      rw [renameLine, hstarts, hstarts, hstarts, hstarts]
      simp [List.isPrefixOf]
      rfl
    rw [hpath]
    exact replaceAll_quotedLine rfl (by decide) (by decide) (by decide) hsource hfirst hrest

/-- Keys and paths are renamed by the text of their first name, codes and imports piece by piece.
Paths of the source crate become paths of the target crate exactly if neither of the two is spelled
with hyphens. -/
theorem renameLine_exact_iff {source target : String} (hsource : IsName source)
    (hne : crateIdent source ≠ crateIdent target) :
    (∀ key sign first rest, (key, sign) ∈ [("python", "."), ("rust", "::")] → IsName first →
      '"' ∉ rest.toList → renameLine source target (quotedLine key first sign rest) =
        quotedLine key (if first = source then target else first) sign rest) ∧
    (∀ key sign text, (key, sign) ∈ [("rust_code = ", ""), ("rust_imports = ", "\"")] →
      renameLine source target (key ++ text) =
        Text.join (sign ++ target ++ "::") (Text.splitOn (key ++ text) (sign ++ source ++ "::"))) ∧
    ((∀ rest, '"' ∉ rest.toList →
      renameLine source target (quotedLine "rust" (crateIdent source) "::" rest) =
        quotedLine "rust" (crateIdent target) "::" rest) ↔
      source = crateIdent source ∧ target = crateIdent target) := by
  refine ⟨fun key sign first rest hline => renameLine_quotedLine hline hsource, fun key sign text h => ?_,
    ?_⟩
  · rw [← replaceAll_eq_join]
    simp only [mem_cons, Prod.mk.injEq, not_mem_nil, or_false] at h
    rcases h with ⟨rfl, rfl⟩ | ⟨rfl, rfl⟩ <;>
      simp [renameLine, startsWith, List.isPrefixOf] <;> rfl
  · have hpath (rest : String) (hrest : '"' ∉ rest.toList) :
        renameLine source target (quotedLine "rust" (crateIdent source) "::" rest) = _ :=
      renameLine_quotedLine (by simp) hsource (isName_crateIdent hsource) hrest
    constructor
    · intro h
      have hempty := h "" (by simp)
      rw [hpath "" (by simp), quotedLine_inj] at hempty
      split at hempty
      · rename_i hsame
        exact ⟨hsame.symm, hempty⟩
      · exact absurd hempty hne
    · rintro ⟨hsame, htarget⟩ rest hrest
      rw [hpath rest hrest, if_pos hsame.symm, ← htarget]

theorem renameLine_exact_clap :
    renameLine "clap_builder" "clap" (quotedLine "rust" "clap_builder" "::" "Command") =
      quotedLine "rust" "clap" "::" "Command" := by
  have hexact := (@renameLine_exact_iff "clap_builder" "clap" (by unfold IsName; decide)
    (by decide)).2.2
  exact hexact.2 ⟨by decide, by decide⟩ "Command" (by decide)

/-- A path of a crate with a hyphen keeps it, and a longer name in a code loses its end. -/
theorem renameLine_misses_tls :
    renameLine "native-tls" "tls" (quotedLine "rust" "native_tls" "::" "TlsConnector") =
        quotedLine "rust" "native_tls" "::" "TlsConnector" ∧
      renameLine "builder" "clap" "rust_code = \"my_builder::Command::new()\"" =
        "rust_code = \"my_clap::Command::new()\"" := by
  decide

end Stub.Reexport

end Oxidize
