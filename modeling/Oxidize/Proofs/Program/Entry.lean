import Mathlib.Data.List.ReduceOption
import Oxidize.Proofs.Isolation.Functions
import Oxidize.Proofs.Lowering.Steps

/-!
# The main function of a written module

A module is written in pieces, and two kinds of pieces define a main function: a function of that
name, and the piece that holds what is left over of the statements at the top. With a function
`main` in the source, the written module has exactly one definition if nothing is left over and the
source defines `main` once. A call that runs an asynchronous `main` is always left over, since it is
taken over as a call of a method and the filter looks for a call of an attribute
(`main_written_once_iff`).
-/

namespace Oxidize.Emit

open IR (Stmt Function)
open Emitter (of_run_bind)
open List

/-! ## Pieces -/

inductive Piece where
  | header (lines : List String)
  | cls (text : String)
  | function (name text : String)
  | constant (lines : List String)
  | program (lines : List String)

namespace Piece

def lines : Piece → List String
  | header lines => lines
  | cls text => [text, ""]
  | function _ text => [text, ""]
  | constant lines => lines
  | program lines => ["fn main()" ++ Code.opening] ++ lines ++ [Code.closing, ""]

def isMain : Piece → Bool
  | function name _ => name == "main"
  | program _ => true
  | _ => false

end Piece

def programPieces (statements : List Stmt) : Emit (List Piece) := do
  if statements.isEmpty then return []
  else
    change fun c => { c with indent := 1 }
    let lines ← statements.mapM stmt
    change fun c => { c with indent := 0 }
    return [.program lines]

def pieces (m : IR.Module) : Emit (List Piece) := do
  opening m
  let classes ← m.classes.mapM fun c => return Piece.cls (← classItem c)
  let functions ← m.functions.mapM fun f => return Piece.function f.name (← function f)
  let constants ← (m.statements.filter isConstant).mapM fun s =>
    return Piece.constant (← constantItem s)
  let program ← programPieces (leftOver m)
  let imports ← importLines m
  return [.header (header m imports)] ++ classes ++ functions ++ constants ++ program

variable {α : Type} {l : List α} {g : α → Emit Piece} {m : IR.Module} {text : String}

lemma mapM_lines {f : α → Emit (List String)} (h : ∀ a, f a = do return (← g a).lines) :
    l.mapM f = do return (← l.mapM g).map Piece.lines := by
  induction l with
  | nil => rfl
  | cons a l ih =>
    rw [mapM_cons, mapM_cons, h a, ih]
    simp only [bind_assoc, pure_bind, map_cons]

lemma mainLines_eq (statements : List Stmt) :
    mainLines statements = do return (← programPieces statements).flatMap Piece.lines := by
  unfold mainLines programPieces
  split
  · rfl
  · simp only [bind_assoc, pure_bind, flatMap_cons, flatMap_nil, append_nil]
    rfl

lemma flatMap_lines (header : List String) (classes functions constants program : List Piece) :
    ([Piece.header header] ++ classes ++ functions ++ constants ++ program).flatMap Piece.lines =
      header ++ (classes.map Piece.lines).flatten ++ (functions.map Piece.lines).flatten
        ++ (constants.map Piece.lines).flatten ++ program.flatMap Piece.lines := by
  simp [flatMap_def, Piece.lines]

lemma module_eq_pieces (m : IR.Module) :
    module m = do return Text.join "\n" ((← pieces m).flatMap Piece.lines) := by
  unfold module pieces
  rw [mapM_lines (g := fun c => return Piece.cls (← classItem c)) fun c => by
        simp only [bind_assoc, pure_bind]; rfl,
    mapM_lines (g := fun f : Function => return Piece.function f.name (← function f)) fun f => by
        simp only [bind_assoc, pure_bind]; rfl,
    mapM_lines (f := constantItem) (g := fun s => return Piece.constant (← constantItem s))
      fun s => by simp only [bind_assoc, pure_bind]; exact (bind_pure _).symm,
    mainLines_eq]
  simp only [bind_assoc, pure_bind, flatMap_lines]

/-! ## Pieces that are written one by one -/

variable {e e' : Emitter} {ps : List Piece}

/-- What is written one by one was written from contexts in which an invariant holds. -/
lemma exists_run_of_mem_mapM {β : Type} {I : Context → Prop} {g : α → Emit β}
    (hkeeps : ∀ a ∈ l, ∀ {e e' : Emitter} {b : β}, I e.ctx → e.run (g a) = (.ok b, e') → I e'.ctx)
    {bs : List β} (he : I e.ctx) (hrun : e.run (l.mapM g) = (.ok bs, e')) {b : β} (hb : b ∈ bs) :
    ∃ a ∈ l, ∃ e₁ e₂ : Emitter, I e₁.ctx ∧ e₁.run (g a) = (.ok b, e₂) := by
  induction l generalizing e bs with
  | nil =>
    cases hrun
    cases hb
  | cons a l ih =>
    rw [mapM_cons] at hrun
    obtain ⟨first, e₁, hfirst, hrun⟩ := of_run_bind hrun
    obtain ⟨others, e₂, hothers, hrun⟩ := of_run_bind hrun
    cases hrun
    rcases mem_cons.1 hb with rfl | hb
    · exact ⟨a, by simp, e, e₁, he, hfirst⟩
    · obtain ⟨a', ha', hwritten⟩ := ih (fun a ha => hkeeps a (by simp [ha]))
        (hkeeps a (by simp) he hfirst) hothers hb
      exact ⟨a', by simp [ha'], hwritten⟩

lemma exists_of_mem_pieces {β : Type} (kind : α → β → Piece) {g : α → Emit β}
    (hrun : e.run (l.mapM fun a => return kind a (← g a)) = (.ok ps, e')) {piece : Piece}
    (hpiece : piece ∈ ps) : ∃ a b, piece = kind a b := by
  obtain ⟨a, -, e₁, e₂, -, hrun⟩ := exists_run_of_mem_mapM (I := fun _ => True)
    (fun _ _ {_ _ _} _ _ => trivial) trivial hrun hpiece
  obtain ⟨b, _, _, hrun⟩ := of_run_bind hrun
  cases hrun
  exact ⟨a, b, rfl⟩

/-! ## Counting main functions -/

/-- Of pieces that are written one by one, it is known beforehand which define the main function. -/
lemma countP_mapM {p : α → Bool}
    (h : ∀ a ∈ l, ∀ {e e' : Emitter} {b : Piece}, e.run (g a) = (.ok b, e') → b.isMain = p a)
    (hrun : e.run (l.mapM g) = (.ok ps, e')) : ps.countP Piece.isMain = l.countP p := by
  induction l generalizing e ps with
  | nil =>
    cases hrun
    rfl
  | cons a l ih =>
    rw [mapM_cons] at hrun
    obtain ⟨b, e₁, hb, hrun⟩ := of_run_bind hrun
    obtain ⟨bs, e₂, hbs, hrun⟩ := of_run_bind hrun
    cases hrun
    rw [countP_cons, countP_cons, h a (by simp) hb, ih (fun a ha => h a (by simp [ha])) hbs]

lemma programPieces_spec {statements : List Stmt}
    (hrun : e.run (programPieces statements) = (.ok ps, e')) :
    (statements.isEmpty = true ∧ ps = []) ∨
      (statements.isEmpty = false ∧ ∃ lines, ps = [.program lines]) := by
  unfold programPieces at hrun
  cases hempty : statements.isEmpty with
  | true =>
    rw [hempty] at hrun
    cases hrun
    exact .inl ⟨rfl, rfl⟩
  | false =>
    rw [hempty] at hrun
    obtain ⟨_, _, _, hrun⟩ := of_run_bind hrun
    obtain ⟨lines, _, _, hrun⟩ := of_run_bind hrun
    obtain ⟨_, _, _, hrun⟩ := of_run_bind hrun
    cases hrun
    exact .inr ⟨rfl, lines, rfl⟩

/-- Each function `main` gives a definition, and so does whatever is left over. -/
lemma countP_pieces (hrun : e.run (pieces m) = (.ok ps, e')) : ps.countP Piece.isMain =
      m.functions.countP (·.name == "main") + if (leftOver m).isEmpty then 0 else 1 := by
  unfold pieces at hrun
  obtain ⟨_, _, _, hrun⟩ := of_run_bind hrun
  obtain ⟨classes, _, hclasses, hrun⟩ := of_run_bind hrun
  obtain ⟨functions, _, hfunctions, hrun⟩ := of_run_bind hrun
  obtain ⟨constants, _, hconstants, hrun⟩ := of_run_bind hrun
  obtain ⟨program, _, hprogram, hrun⟩ := of_run_bind hrun
  obtain ⟨_, _, _, hrun⟩ := of_run_bind hrun
  cases hrun
  have hclasses' : classes.countP Piece.isMain = 0 := by
    rw [countP_eq_zero]
    intro piece hpiece
    obtain ⟨_, _, rfl⟩ := exists_of_mem_pieces (fun _ => Piece.cls) hclasses hpiece
    exact Bool.false_ne_true
  have hconstants' : constants.countP Piece.isMain = 0 := by
    rw [countP_eq_zero]
    intro piece hpiece
    obtain ⟨_, _, rfl⟩ := exists_of_mem_pieces (fun _ => Piece.constant) hconstants hpiece
    exact Bool.false_ne_true
  have hfunctions' : functions.countP Piece.isMain = m.functions.countP (·.name == "main") := by
    refine countP_mapM (fun _ _ {_ _ _} h => ?_) hfunctions
    obtain ⟨_, _, _, h⟩ := of_run_bind h
    cases h
    rfl
  have hprogram' : program.countP Piece.isMain = if (leftOver m).isEmpty then 0 else 1 := by
    rcases programPieces_spec hprogram with ⟨hempty, rfl⟩ | ⟨hsome, lines, rfl⟩
    · rw [hempty]
      rfl
    · rw [hsome]
      rfl
  simp only [countP_append, hclasses', hconstants', hfunctions', hprogram']
  simp [Piece.isMain]

/-! ## Functions define what they are called -/

/-- A line of the text, at the margin, is the head of a function of this name. -/
def Heads (text name : String) : Prop :=
  ∃ (before after : List String) (isAsync : Bool) (rest : String), text = Text.join "\n" (before ++
      ("pub " ++ asyncMark isAsync ++ "fn " ++ name ++ "(" ++ rest) :: after)

lemma heads_of_function {f : Function} (he : e.ctx.indent = 0)
    (hrun : e.run (function f) = (.ok text, e')) : Heads text f.name := by
  unfold function at hrun
  obtain ⟨outer, _, hmargin, hrun⟩ := of_run_bind hrun
  obtain ⟨decoration, _, _, hrun⟩ := of_run_bind hrun
  obtain ⟨attributes, _, _, hrun⟩ := of_run_bind hrun
  obtain ⟨runtime, _, _, hrun⟩ := of_run_bind hrun
  obtain ⟨doc, _, _, hrun⟩ := of_run_bind hrun
  unfold withOwnMutVars at hrun
  obtain ⟨_, _, _, hrun⟩ := of_run_bind hrun
  obtain ⟨_, _, _, hrun⟩ := of_run_bind hrun
  obtain ⟨text', _, hbody, hrun⟩ := of_run_bind hrun
  cases hrun
  obtain ⟨_, _, _, hbody⟩ := of_run_bind hbody
  obtain ⟨params, _, _, hbody⟩ := of_run_bind hbody
  obtain ⟨result, _, _, hbody⟩ := of_run_bind hbody
  obtain ⟨codes, _, _, hbody⟩ := of_run_bind hbody
  obtain ⟨lines, _, _, hbody⟩ := of_run_bind hbody
  cases hbody
  have houter : outer = "" := by
    cases hmargin
    rw [he]
    rfl
  refine ⟨decoration ++ attributes ++ runtime ++ doc, lines ++ [outer ++ Code.closing], f.isAsync,
    Text.commas params ++ ")" ++ result ++ Code.opening, ?_⟩
  have hsignature : s!"{outer}pub {asyncMark f.isAsync}fn {f.name}({Text.commas params}){result}"
      ++ Code.opening = "pub " ++ asyncMark f.isAsync ++ "fn " ++ f.name ++ "("
        ++ (Text.commas params ++ ")" ++ result ++ Code.opening) := by
    rw [houter]
    show "" ++ "pub " ++ asyncMark f.isAsync ++ "fn " ++ f.name ++ "(" ++ Text.commas params ++ ")"
      ++ result ++ Code.opening = _
    simp only [String.empty_append, String.append_assoc]
  rw [hsignature]
  simp

lemma heads_of_pieces (he : Opened e.ctx) (hrun : e.run (pieces m) = (.ok ps, e')) {name : String}
    (hmem : Piece.function name text ∈ ps) : Heads text name := by
  let I : Context → Prop := fun c => View.outside.ready c ∧ c.indent = 0
  have hkeeps {α : Type} {x : Emit α} (hx : Leaves .outside x) {e e' : Emitter} {a : α}
      (h : I e.ctx) (hrun : e.run x = (.ok a, e')) : I e'.ctx := by
    have hpart := (hx h.1 hrun).part
    refine ⟨View.outside.ready_of_part hpart h.1, ?_⟩
    rw [show e'.ctx.indent = e.ctx.indent from (congrArg Context.indent hpart :), h.2]
  unfold pieces at hrun
  obtain ⟨_, e₁, hopening, hrun⟩ := of_run_bind hrun
  obtain ⟨classes, e₂, hclasses, hrun⟩ := of_run_bind hrun
  obtain ⟨functions, e₃, hfunctions, hrun⟩ := of_run_bind hrun
  obtain ⟨constants, e₄, hconstants, hrun⟩ := of_run_bind hrun
  obtain ⟨program, e₅, hprogram, hrun⟩ := of_run_bind hrun
  obtain ⟨_, _, _, hrun⟩ := of_run_bind hrun
  cases hrun
  have hopened := opening_opens m he hopening
  have hstart : I e₁.ctx := ⟨hopened.ready, (congrArg Context.indent hopened.start :)⟩
  have hleaves (c : IR.Class) : Leaves .outside (do return Piece.cls (← classItem c)) :=
    (classItem_leaves c).leaves.bind fun _ => .pure _
  have hitems : I e₂.ctx := hkeeps (Leaves.listMapM fun c _ => hleaves c) hstart hclasses
  have hfunction : Piece.function name text ∈ functions := by
    simp only [mem_append, mem_singleton] at hmem
    rcases hmem with (((h | h) | h) | h) | h
    · cases h
    · obtain ⟨_, _, h⟩ := exists_of_mem_pieces (fun _ => Piece.cls) hclasses h
      cases h
    · exact h
    · obtain ⟨_, _, h⟩ := exists_of_mem_pieces (fun _ => Piece.constant) hconstants h
      cases h
    · rcases programPieces_spec hprogram with ⟨-, rfl⟩ | ⟨-, lines, rfl⟩
      · cases h
      · cases mem_singleton.1 h
  obtain ⟨f, _, e₆, e₇, hI, hwritten⟩ := exists_run_of_mem_mapM (I := I) (fun f _ {_ _ _} =>
    hkeeps ((function_leaves f).outside.leaves.bind fun _ => .pure _)) hitems hfunctions hfunction
  obtain ⟨text', e₈, hwritten, hpiece⟩ := of_run_bind hwritten
  cases hpiece
  exact heads_of_function hI.2 hwritten

end Oxidize.Emit

namespace Oxidize

/-! ## Statements that are left over -/

/-- Does the statement run an asynchronous function from the top of a module? -/
def Syntax.Stmt.startsRuntime : Syntax.Stmt → Bool
  | .expr (.call (.attribute (.name owner _ _) method _ _) _ _ _) _ =>
    owner == "asyncio" && method == "run"
  | _ => false

namespace Lower

lemma gives_mem_mapM {α β : Type} {P : β → Prop} {f : α → Lower β} {l : List α} {a : α}
    (ha : a ∈ l) (h : Gives P (f a)) : Gives (fun bs => ∃ b ∈ bs, P b) (l.mapM f) := by
  induction l with
  | nil => cases ha
  | cons first l ih =>
    rw [List.mapM_cons]
    rcases List.mem_cons.1 ha with rfl | ha
    · refine h.bind fun b hb => ?_
      exact .after fun bs => .pure ⟨b, by simp, hb⟩
    · refine .after fun b => ?_
      refine (ih ha).bind fun bs ⟨b', hb', hP⟩ => ?_
      exact .pure ⟨b', by simp [hb'], hP⟩

variable {s : Syntax.Stmt}

/-- The call that runs a function is taken over as a call of a method. -/
lemma item_startsRuntime (lines : List String) (hs : s.startsRuntime = true) :
    Gives (fun item? => ∃ obj args kwargs line line', item? =
      some (.stmt (.expr (.method obj "run" args kwargs line) line'))) (item lines s) := by
  unfold Syntax.Stmt.startsRuntime at hs
  split at hs
  · rename_i owner _ _ method _ _ args named line line'
    obtain ⟨-, hmethod⟩ := Bool.and_eq_true_iff.1 hs
    obtain rfl : method = "run" := by simpa using hmethod
    unfold item
    dsimp only [FunctionDef.ofStmt?]
    rw [stmt, expr]
    simp only [bind_assoc, pure_bind]
    refine .after fun lowered => ?_
    refine .after fun kwargs => ?_
    refine .after fun obj => ?_
    exact .pure ⟨obj, lowered, _, _, _, rfl⟩
  · cases hs

lemma mem_splitDoc {body : List Syntax.Stmt} (hs : s.startsRuntime = true) (hmem : s ∈ body) :
    s ∈ (Syntax.splitDoc body).2 := by
  have hdoc : s.docText? = none := by
    unfold Syntax.Stmt.startsRuntime at hs
    split at hs
    · rfl
    · cases hs
  cases body with
  | nil => cases hmem
  | cons first body =>
    rw [Syntax.splitDoc]
    rcases List.mem_cons.1 hmem with rfl | hmem
    · rw [hdoc]
      exact List.mem_cons_self
    · split
      · exact hmem
      · exact List.mem_cons_of_mem _ hmem

end Lower

lemma leftOver_of_startsRuntime {file : SourceFile} {filename : Option String} {m : IR.Module}
    (hparse : file.parse filename = .ok m) {tree : List Syntax.Stmt} (htree : file.tree = .ok tree)
    {s : Syntax.Stmt} (hmem : s ∈ tree) (hs : s.startsRuntime = true) :
    (Emit.leftOver m).isEmpty = false := by
  unfold SourceFile.parse at hparse
  rw [htree] at hparse
  dsimp only at hparse
  cases hlower : (Lower.module (Text.lines file.text) filename tree).run {} with
  | error error =>
    rw [hlower] at hparse
    cases hparse
  | ok result =>
    rw [hlower] at hparse
    cases hparse
    have hgives : Lower.Gives (fun m => (Emit.leftOver m).isEmpty = false)
        (Lower.module (Text.lines file.text) filename tree) := by
      unfold Lower.module
      refine (Lower.gives_mem_mapM (Lower.mem_splitDoc hs hmem)
        (Lower.item_startsRuntime _ hs)).bind fun items hitems => ?_
      obtain ⟨_, hitem, obj, args, kwargs, line, line', rfl⟩ := hitems
      refine .pure ?_
      rw [List.isEmpty_eq_false_iff_exists_mem]
      refine ⟨.expr (.method obj "run" args kwargs line) line', ?_⟩
      unfold Emit.leftOver
      rw [List.mem_filter]
      refine ⟨List.mem_filterMap.2
        ⟨.stmt (.expr (.method obj "run" args kwargs line) line'), ?_, rfl⟩, rfl⟩
      exact List.reduceOption_mem_iff.2 hitem
    exact hgives hlower

/-- With a function `main` in the source, the written module defines the main function once if and
only if there is one such function and no statement is left over. A statement that runs the function
is left over, so that the main function is defined twice. -/
theorem main_written_once_iff {file : SourceFile} {filename : Option String} {m : IR.Module}
    (hparse : file.parse filename = .ok m) (hmain : ∃ f ∈ m.functions, f.name = "main")
    (registry : Registry) (localModules : List String) (crateName : Option String) {text : String}
    (htext : (transpile registry m localModules crateName).1 = .ok text) :
    ∃ ps : List Emit.Piece,
      ((Emitter.start (Resolver.ofModule registry m) localModules crateName).run
        (Emit.pieces m)).1 = .ok ps ∧
      text = Text.join "\n" (ps.flatMap Emit.Piece.lines) ∧
      (∀ name code, Emit.Piece.function name code ∈ ps → Emit.Heads code name) ∧
      (ps.countP Emit.Piece.isMain = 1 ↔
        m.functions.countP (·.name == "main") = 1 ∧
        ∀ s ∈ m.statements,
          Emit.isConstant s = true ∨ Emit.isMainCheck s = true ∨ Emit.runsAsync s = true) ∧
      ∀ tree, file.tree = .ok tree → (∃ s ∈ tree, s.startsRuntime = true) →
        1 < ps.countP Emit.Piece.isMain := by
  let e := Emitter.start (Resolver.ofModule registry m) localModules crateName
  have hrun : e.run (Emit.module m) = (.ok text, (e.run (Emit.module m)).2) := Prod.ext htext rfl
  rw [Emit.module_eq_pieces] at hrun
  obtain ⟨ps, e', hps, hjoin⟩ := Emitter.of_run_bind hrun
  have hcount := Emit.countP_pieces hps
  have hpos : 0 < m.functions.countP (·.name == "main") := by
    obtain ⟨f, hf, hname⟩ := hmain
    exact List.countP_pos_iff.2 ⟨f, hf, by simpa using hname⟩
  have hnone : (Emit.leftOver m).isEmpty = true ↔ ∀ s ∈ m.statements,
      Emit.isConstant s = true ∨ Emit.isMainCheck s = true ∨ Emit.runsAsync s = true := by
    unfold Emit.leftOver
    rw [List.isEmpty_iff, List.filter_eq_nil_iff]
    refine forall₂_congr fun s _ => ?_
    cases Emit.isConstant s <;> cases Emit.isMainCheck s <;> cases Emit.runsAsync s <;> decide
  refine ⟨ps, congrArg Prod.fst hps, ?_, ?_, ?_, ?_⟩
  · cases hjoin
    rfl
  · intro name code hmem
    exact Emit.heads_of_pieces (Emit.opened_start _ localModules crateName) hps hmem
  · rw [hcount, ← hnone]
    cases (Emit.leftOver m).isEmpty with
    | true => simp
    | false =>
      simp
      omega
  · rintro tree htree ⟨s, hmem, hs⟩
    rw [hcount, leftOver_of_startsRuntime hparse htree hmem hs]
    simp
    omega

/-- An asynchronous function `main` that does nothing. -/
def mainDef (line : Nat) : Syntax.Stmt :=
  .functionDef true "main" (.mk [] [] none [] [] none []) [.pass (line + 1)] []
    (some (.constant .none none line)) line

def runMain (line : Nat) : Syntax.Stmt :=
  .expr (.call (.attribute (.name "asyncio" .load line) "run" .load line)
    [.call (.name "main" .load line) [] [] line] [] line) line

/-- A source file that runs its function only if it is run as a program. -/
def guardedSource : SourceFile where
  text := "import asyncio\nLIMIT = 3\n\n\nasync def main() -> None:\n    pass\n\n\n" ++
    "if __name__ == '__main__':\n    asyncio.run(main())\n"
  tree := .ok [
    .importNames [("asyncio", none)] 1,
    .assign [.name "LIMIT" .store 2] (.constant (.int 3) none 2) 2,
    mainDef 5,
    .ifStmt (.compare (.name "__name__" .load 9) [(.eq, .constant (.str "__main__") none 9)] 9)
      [runMain 10] [] 9]

def guardedModule : IR.Module :=
  (guardedSource.parse none).toOption.getD { name := "" }

lemma parse_guardedSource : guardedSource.parse none = .ok guardedModule := by
  have hsome : (guardedSource.parse none).toOption.isSome = true := by decide +kernel
  unfold guardedModule
  cases hparse : guardedSource.parse none with
  | ok m => rfl
  | error error =>
    rw [hparse] at hsome
    cases hsome

theorem main_written_once_guardedSource :
    ∃ (text : String) (ps : List Emit.Piece), (transpile {} guardedModule).1 = .ok text ∧
      text = Text.join "\n" (ps.flatMap Emit.Piece.lines) ∧ ps.countP Emit.Piece.isMain = 1 := by
  have hsome : (transpile {} guardedModule).1.toOption.isSome = true := by decide +kernel
  cases htext : (transpile {} guardedModule).1 with
  | error error =>
    rw [htext] at hsome
    cases hsome
  | ok text =>
    obtain ⟨ps, -, hjoin, -, hiff, -⟩ := main_written_once_iff parse_guardedSource
      (by decide +kernel) {} [] none htext
    exact ⟨text, ps, rfl, hjoin, hiff.2 (by decide +kernel)⟩

def unguardedSource : SourceFile where
  text := "import asyncio\n\n\nasync def main() -> None:\n    pass\n\n\nasyncio.run(main())\n"
  tree := .ok [.importNames [("asyncio", none)] 1, mainDef 4, runMain 8]

theorem main_written_twice_unguardedSource :
    ((unguardedSource.parse none).toOption.bind fun m => (transpile {} m).1.toOption) =
        some ("#[tokio::main]\npub async fn main() \x7b\n    // pass\n\x7d\n\n" ++
          "fn main() \x7b\n    asyncio.run(main());\n\x7d\n") ∧
      ((unguardedSource.parse none).toOption.bind fun m =>
        ((Emitter.start (Resolver.ofModule {} m)).run (Emit.pieces m)).1.toOption.map fun ps =>
          ps.countP Emit.Piece.isMain) = some 2 := by
  decide +kernel

end Oxidize
