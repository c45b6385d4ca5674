import Oxidize.Transpile
import Oxidize.Proofs.Lowering.Locals

/-!
# Every failure of lowering is reported

A source file is taken over, or the user is told what is wrong with it: the text is no program, a
type hint is missing or cannot be read, or a feature has no counterpart. The one fault that nobody
is told about is a text that ends before the line of a definition. Lowering cuts the text into more
lines than the tree counts, since it also breaks lines at form feeds and other separators, but never
into fewer (`lineCount_le`). So that fault cannot arise from a tree whose statements begin on lines
of the text (`parse_reports`).
-/

namespace Oxidize

open List

/-! ## Lines of the tree and lines of the text -/

namespace Text

/-- The number of lines of a text as a syntax tree counts them: a line ends with a line feed, a
carriage return, or both. -/
def lineCount (s : String) : Nat :=
  (plainBreaks s.toList).count '\n' + 1

lemma count_plainBreaks_le (current cs : List Char) :
    (plainBreaks cs).count '\n' ≤ (lineChars current cs).length := by
  fun_induction plainBreaks cs generalizing current with
  | case1 cs ih =>
    rw [lineChars, count_cons_self, length_cons]
    exact Nat.succ_le_succ (ih [])
  | case2 cs hnext ih =>
    rw [lineChars, if_pos (by decide), count_cons_self, length_cons]
    · exact Nat.succ_le_succ (ih [])
    · exact fun cs' _ => hnext cs'
  | case3 c cs hpair hreturn ih =>
    rw [lineChars]
    · split
      · have hhead : (c :: plainBreaks cs).count '\n' ≤ (plainBreaks cs).count '\n' + 1 := by
          rw [count_cons]
          split <;> omega
        have hrest := ih []
        rw [length_cons]
        omega
      · rename_i hbreak
        have hc : c ≠ '\n' := by
          rintro rfl
          exact hbreak (by decide)
        rw [count_cons_of_ne hc]
        exact ih _
    · exact fun _ h => (hreturn h).elim
  | case4 => exact Nat.zero_le _

lemma lineCount_le (s : String) : lineCount s ≤ (lines s).length + 1 := by
  rw [lineCount, lines, length_map]
  exact Nat.succ_le_succ (count_plainBreaks_le [] s.toList)

end Text

namespace Lower

open Syntax (stmtParts)

/-! ## Definitions -/

/-- The user is told about the error, unless the text ends before the line of one of the
statements. -/
def LowerError.IsToldUnless (lines : List String) (body : List Syntax.Stmt) (error : LowerError) :
    Prop :=
  error.IsTold ∨ ∃ s ∈ stmtParts body, lines.length + 1 < s.line

variable {lines : List String} {body : List Syntax.Stmt}

lemma Throws.unless {α : Type} {x : Lower α} (hx : Throws LowerError.IsTold x) :
    Throws (LowerError.IsToldUnless lines body) x :=
  hx.imp fun _ => .inl

variable {s : Syntax.Stmt}

lemma attributes_throws (hs : s ∈ stmtParts body) :
    Throws (LowerError.IsToldUnless lines body) (attributes lines s.line) := by
  unfold attributes
  cases hat : attributesAt? lines s.line with
  | some attrs => exact .pure _
  | none =>
    refine .throw (.inr ⟨s, hs, ?_⟩)
    unfold attributesAt? at hat
    split at hat
    · cases hat
    · split at hat
      · omega
      · cases hat

lemma line_of_ofStmt? {d : FunctionDef} (hd : FunctionDef.ofStmt? s = some d) :
    d.line = s.line := by
  unfold FunctionDef.ofStmt? at hd
  split at hd
  · cases hd
    rfl
  · cases hd

lemma lower_throws {d : FunctionDef} (hd : FunctionDef.ofStmt? s = some d)
    (hs : s ∈ stmtParts body) : Throws (LowerError.IsToldUnless lines body) (d.lower lines) := by
  unfold FunctionDef.lower
  rw [line_of_ofStmt? hd]
  refine .inScope ((attributes_throws hs).bind fun attributes => ?_)
  refine (lowerParams_lowers (fun _ => false) d.params).throws.unless.bind fun params => ?_
  exact (returns_calm _ _).throws.unless.bind fun result => (block_lowers (fun _ => false) _).throws.unless.map _

lemma members_throws {members : List Syntax.Stmt} (h : ∀ s ∈ members, s ∈ stmtParts body) :
    Throws (LowerError.IsToldUnless lines body) (Lower.members lines members) := by
  induction members with
  | nil => exact .pure _
  | cons s members ih =>
    have hrest := ih fun s hs => h s (by simp [hs])
    unfold Lower.members
    split
    · exact (liftHint_calm _ _).throws.unless.bind fun type => hrest.map _
    · split
      · rename_i d hd
        exact ((lower_throws hd (h s (by simp))).map _).bind fun f => hrest.map _
      · exact hrest

lemma mem_of_mem_splitDoc {body : List Syntax.Stmt} (hs : s ∈ (Syntax.splitDoc body).2) :
    s ∈ body := by
  cases body with
  | nil => exact hs
  | cons first rest =>
    rw [Syntax.splitDoc] at hs
    split at hs
    · exact mem_cons_of_mem _ hs
    · exact hs

lemma self_mem_parts (s : Syntax.Stmt) : s ∈ s.parts := by
  cases s <;> simp [Syntax.Stmt.parts]

lemma mem_stmtParts {body : List Syntax.Stmt} {part : Syntax.Stmt} (hs : s ∈ body)
    (hpart : part ∈ s.parts) : part ∈ stmtParts body := by
  induction body with
  | nil => cases hs
  | cons first rest ih =>
    rw [Syntax.stmtParts]
    rcases mem_cons.1 hs with rfl | hs
    · exact mem_append_left _ hpart
    · exact mem_append_right _ (ih hs)

lemma item_throws (hs : s ∈ body) : Throws (LowerError.IsToldUnless lines body) (item lines s) := by
  have hself : s ∈ stmtParts body := mem_stmtParts hs (self_mem_parts s)
  cases s with
  | importNames | importFrom => exact .pure _
  | classDef name bases keywords members decorators line =>
    have hmembers : ∀ t ∈ (Syntax.splitDoc members).2, t ∈ stmtParts body := by
      intro t ht
      refine mem_stmtParts hs ?_
      rw [Syntax.Stmt.parts]
      exact mem_cons_of_mem _ (mem_stmtParts (mem_of_mem_splitDoc ht) (self_mem_parts t))
    refine Throws.map (.inScope ?_) _
    refine (attributes_throws hself).bind fun attributes => ?_
    refine (members_throws hmembers).bind fun m => ?_
    dsimp only
    split
    · split
      · exact (constructorFields_calm _).throws.unless.map _
      · exact .pure _
    · exact .pure _
  | functionDef isAsync name params members decorators returns line =>
    exact (lower_throws rfl hself).map _
  | _ => exact (stmt_lowers (fun _ => false) _).throws.unless.map _

lemma module_throws (filename : Option String) :
    Throws (LowerError.IsToldUnless lines body) (module lines filename body) := by
  unfold module
  exact (Throws.listMapM fun s hs => item_throws (mem_of_mem_splitDoc hs)).map _

end Lower

/-! ## Source files -/

/-- The kinds of reports about a source: that it is no program, that a type hint is missing or
cannot be read, and that a feature has no counterpart. -/
def Report.concernsSource : Report → Bool
  | .parse _ | .typing .. | .unsupported .. => true
  | .general _ | .codegen _ => false

lemma Lower.LowerError.IsTold.diagnostic? {error : Lower.LowerError} (h : error.IsTold)
    (filename : Option String) :
    ∃ d, error.diagnostic? filename = some d ∧ d.report.concernsSource := by
  cases error with
  | hint fault name line => exact ⟨_, rfl, rfl⟩
  | unsupported feature line => exact ⟨_, rfl, rfl⟩
  | textEnds => exact (h rfl).elim

namespace SourceFile

def IsLocated (f : SourceFile) : Prop :=
  ∀ body, f.tree = .ok body → ∀ s ∈ Syntax.stmtParts body, s.line ≤ Text.lineCount f.text

/-- A source file whose tree belongs to its text is taken over, or there is a diagnostic about the
source: that it is no program, that a type hint is missing or cannot be read, or that a feature has
no counterpart. -/
theorem parse_reports (f : SourceFile) (filename : Option String) (hf : f.IsLocated) :
    (∃ m, f.parse filename = .ok m) ∨
      ∃ error d, f.parse filename = .error error ∧ error.diagnostic? filename = some d ∧
        d.report.concernsSource := by
  unfold parse
  cases htree : f.tree with
  | error fault => exact .inr ⟨_, _, rfl, rfl, rfl⟩
  | ok body =>
    dsimp only
    cases hrun : (Lower.module (Text.lines f.text) filename body).run {} with
    | ok p => exact .inl ⟨p.1, rfl⟩
    | error error =>
      rcases Lower.module_throws filename hrun with htold | ⟨s, hs, hline⟩
      · obtain ⟨d, hd, hreport⟩ := htold.diagnostic? filename
        exact .inr ⟨.refused error, d, rfl, hd, hreport⟩
      · have hlocated := hf body htree s hs
        have hcount := Text.lineCount_le f.text
        omega

/-- A definition on the third line of a text that counts as five lines here, since a form feed and a
line separator end lines too. -/
def separatedFile : SourceFile where
  text := "x = 1\x0c\r# #[inline] \u2028\r\ndef f(a) -> None:\r    pass"
  tree := .ok [
    .assign [.name "x" .store 1] (.constant (.int 1) none 1) 1,
    .functionDef false "f" (.mk [] [⟨"a", none, 3⟩] none [] [] none []) [.pass 4] []
      (some (.constant .none none 3)) 3]

lemma separatedFile_isLocated : separatedFile.IsLocated := by
  intro body hbody
  cases hbody
  decide

theorem parse_reports_separatedFile :
    separatedFile.IsLocated ∧
      ((∃ m, separatedFile.parse (some "unit.py") = .ok m) ∨
        ∃ error d, separatedFile.parse (some "unit.py") = .error error ∧
          error.diagnostic? (some "unit.py") = some d ∧ d.report.concernsSource) :=
  ⟨separatedFile_isLocated, parse_reports _ _ separatedFile_isLocated⟩

end SourceFile

end Oxidize
