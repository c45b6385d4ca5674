import Mathlib.Tactic.Lemma
import Oxidize.Analysis.Usage

/-!
# Runs of statements, and blocks that none of them leaves at the end

How a run of a statement can end is given by rules. Nothing is assumed about values: a condition may
come out either way, and what is evaluated may fail. No run comes to the end of a block that always
exits (`blockAlwaysExits_sound`).
-/

namespace Oxidize.IR

/-- How a run ends: at the end, or before it. -/
inductive Ending where
  | normal
  | returned
  | raised
  | broke
  | continued
  deriving DecidableEq

namespace Ending

def goesOn : Ending → Bool
  | .normal | .continued => true
  | _ => false

def ofLastRound : Ending → Ending
  | .broke => .normal
  | o => o

end Ending

def Stmt.isSimple : Stmt → Bool
  | .assign .. | .attrAssign .. | .subscriptAssign .. | .tupleUnpack .. | .expr .. | .pass _
  | .other .. => true
  | _ => false

def Stmt.evaluates : Stmt → Bool
  | .pass _ | .breakLoop _ | .continueLoop _ | .tryBlock .. => false
  | _ => true

def Stmt.loopBody? : Stmt → Option (List Stmt)
  | .whileLoop _ body _ | .forLoop _ _ body _ => some body
  | _ => none

mutual

inductive Stmt.Ends : Stmt → Ending → Prop
  | simple {s : Stmt} (h : s.isSimple = true) : s.Ends .normal
  | failed {s : Stmt} (h : s.evaluates = true) : s.Ends .raised
  | ret (value : Expr) (line : Line) : (Stmt.ret value line).Ends .returned
  | breakLoop (line : Line) : (Stmt.breakLoop line).Ends .broke
  | continueLoop (line : Line) : (Stmt.continueLoop line).Ends .continued
  /-- One of the branches is taken. Without a last branch there may be none. -/
  | branch {condition : Expr} {thenBody elseBody body : List Stmt}
    {elifs : List IR.Elif} {line : Line} {o : Ending}
    (hbody : body ∈ thenBody :: elseBody :: elifs.map Prod.snd) (h : BlockEnds body o) :
    (Stmt.ifStmt condition thenBody elifs elseBody line).Ends o
  | noRound {s : Stmt} {body : List Stmt} (hs : s.loopBody? = some body) : s.Ends .normal
  | lastRound {s : Stmt} {body : List Stmt} {o : Ending} (hs : s.loopBody? = some body)
    (h : BlockEnds body o) (ho : o.goesOn = false) : s.Ends o.ofLastRound
  | round {s : Stmt} {body : List Stmt} {o o' : Ending} (hs : s.loopBody? = some body)
    (h : BlockEnds body o) (ho : o.goesOn = true) (hloop : s.Ends o') : s.Ends o'
  | withBlock {context : Expr} {target : Option String} {body : List Stmt} {line : Line}
    {o : Ending} (h : BlockEnds body o) : (Stmt.withBlock context target body line).Ends o
  /-- A resource may keep an error to itself. -/
  | withheld {context : Expr} {target : Option String} {body : List Stmt} {line : Line}
    (h : BlockEnds body .raised) : (Stmt.withBlock context target body line).Ends .normal
  /-- The final block is run in any case, and if it does not come to its end, that counts. -/
  | tryBlock {body elseBody finallyBody : List Stmt} {handlers : List Handler} {line : Line}
    {o o' : Ending} (h : TryEnds body handlers elseBody o) (hfinally : BlockEnds finallyBody o') :
    (Stmt.tryBlock body handlers elseBody finallyBody line).Ends (if o' = .normal then o else o')

inductive BlockEnds : List Stmt → Ending → Prop
  | nil : BlockEnds [] .normal
  | cons {s : Stmt} {rest : List Stmt} {o : Ending} (h : s.Ends .normal) (hrest : BlockEnds rest o) :
    BlockEnds (s :: rest) o
  | stop {s : Stmt} {rest : List Stmt} {o : Ending} (h : s.Ends o) (ho : o ≠ .normal) :
    BlockEnds (s :: rest) o

/-- A run of a `try` block can end so in front of its final block. -/
inductive TryEnds : List Stmt → List Handler → List Stmt → Ending → Prop
  | completed {body elseBody : List Stmt} {handlers : List Handler} {o : Ending}
    (h : BlockEnds body .normal) (helse : BlockEnds elseBody o) : TryEnds body handlers elseBody o
  | handled {body elseBody : List Stmt} {handlers : List Handler} {handler : Handler} {o : Ending}
    (h : BlockEnds body .raised) (hmem : handler ∈ handlers) (hbody : BlockEnds handler.body o) :
    TryEnds body handlers elseBody o
  | left {body elseBody : List Stmt} {handlers : List Handler} {o : Ending}
    (h : BlockEnds body o) (ho : o ≠ .normal) : TryEnds body handlers elseBody o

end

/-! ## Every block has a run -/

mutual

lemma Stmt.exists_ends (s : Stmt) : ∃ o, s.Ends o := by
  match s with
  | .pass line => exact ⟨_, .simple rfl⟩
  | .breakLoop line => exact ⟨_, .breakLoop line⟩
  | .continueLoop line => exact ⟨_, .continueLoop line⟩
  | .tryBlock body handlers elseBody finallyBody line =>
    obtain ⟨o, hbody⟩ := exists_blockEnds body
    obtain ⟨o', helse⟩ := exists_blockEnds elseBody
    obtain ⟨o'', hfinally⟩ := exists_blockEnds finallyBody
    by_cases ho : o = .normal
    · exact ⟨_, .tryBlock (.completed (ho ▸ hbody) helse) hfinally⟩
    · exact ⟨_, .tryBlock (.left hbody ho) hfinally⟩
  | .assign .. | .attrAssign .. | .subscriptAssign .. | .tupleUnpack .. | .ret .. | .ifStmt ..
  | .whileLoop .. | .forLoop .. | .expr .. | .withBlock .. | .raise .. | .other .. =>
    exact ⟨_, .failed rfl⟩

lemma exists_blockEnds (body : List Stmt) : ∃ o, BlockEnds body o := by
  match body with
  | [] => exact ⟨_, .nil⟩
  | s :: rest =>
    obtain ⟨o, hs⟩ := s.exists_ends
    obtain ⟨o', hrest⟩ := exists_blockEnds rest
    by_cases ho : o = .normal
    · exact ⟨_, .cons (ho ▸ hs) hrest⟩
    · exact ⟨_, .stop hs ho⟩

end

/-! ## Blocks that always exit -/

/-- A choice comes to its end only if one of its branches does, where no last branch counts as an
empty one. -/
lemma exists_of_ends_ifStmt {condition : Expr} {thenBody elseBody : List Stmt}
    {elifs : List IR.Elif} {line : Line}
    (hrun : (Stmt.ifStmt condition thenBody elifs elseBody line).Ends .normal) :
    ∃ body ∈ thenBody :: elseBody :: elifs.map Prod.snd, BlockEnds body .normal := by
  generalize ho : Ending.normal = o at hrun
  cases hrun with
  | branch hbody h => exact ⟨_, hbody, ho ▸ h⟩
  | simple h | noRound h | lastRound h | round h => cases h
  | failed => cases ho

mutual

lemma Stmt.not_ends_normal (s : Stmt) (h : s.alwaysExits = true) : ¬ s.Ends .normal := by
  match s with
  | .ret .. | .raise .. =>
    intro hrun
    generalize ho : Ending.normal = o at hrun
    cases hrun with
    | simple h | noRound h | lastRound h | round h => cases h
    | _ => cases ho
  | .ifStmt condition thenBody elifs elseBody line =>
    rw [Stmt.alwaysExits, Bool.and_eq_true, Bool.and_eq_true] at h
    have hthen := not_blockEnds_normal thenBody h.1.1
    have helse := not_blockEnds_normal elseBody h.1.2
    have helifs := not_branchEnds_normal elifs h.2
    intro hrun
    obtain ⟨body, hbody, hend⟩ := exists_of_ends_ifStmt hrun
    rcases List.mem_cons.1 hbody with heq | hbody
    · exact hthen (heq ▸ hend)
    rcases List.mem_cons.1 hbody with heq | hbody
    · exact helse (heq ▸ hend)
    · exact helifs body hbody hend
  | .assign .. | .attrAssign .. | .subscriptAssign .. | .tupleUnpack .. | .whileLoop ..
  | .forLoop .. | .breakLoop _ | .continueLoop _ | .expr .. | .withBlock .. | .tryBlock .. | .pass _
  | .other .. => cases h

lemma not_blockEnds_normal (body : List Stmt) (h : blockAlwaysExits body = true) :
    ¬ BlockEnds body .normal := by
  match body with
  | [] => cases h
  | [s] =>
    intro hrun
    cases hrun with
    | cons hs _ => exact s.not_ends_normal h hs
    | stop _ ho => exact ho rfl
  | first :: s :: rest =>
    intro hrun
    cases hrun with
    | cons _ hrest => exact not_blockEnds_normal (s :: rest) h hrest
    | stop _ ho => exact ho rfl

lemma not_branchEnds_normal (elifs : List IR.Elif) (h : elifsAlwaysExit elifs = true) :
    ∀ body ∈ elifs.map Prod.snd, ¬ BlockEnds body .normal := by
  match elifs with
  | [] => exact List.forall_mem_nil _
  | (condition, body) :: rest =>
    rw [elifsAlwaysExit, Bool.and_eq_true] at h
    exact List.forall_mem_cons.2 ⟨not_blockEnds_normal body h.1, not_branchEnds_normal rest h.2⟩

end

/-- A block that always exits has runs, and none of them comes to the end of the block. -/
theorem blockAlwaysExits_sound {body : List Stmt} (h : blockAlwaysExits body = true) :
    (∃ o, BlockEnds body o) ∧ ∀ o, BlockEnds body o → o ≠ .normal := by
  refine ⟨exists_blockEnds body, ?_⟩
  rintro o hrun rfl
  exact not_blockEnds_normal body h hrun

/-- A loop that may break, and then a choice between leaving and a choice that leaves. -/
def leavingBlock : List Stmt :=
  [.whileLoop (.name "a" none) [.breakLoop none] none,
   .ifStmt (.name "b" none) [.ret (.name "a" none) none] [(.name "c" none, [.raise .absent none])]
     [.pass none, .ifStmt (.name "d" none) [.raise .absent none] [] [.ret .absent none] none] none]

theorem blockAlwaysExits_leavingBlock :
    blockAlwaysExits leavingBlock = true ∧ BlockEnds leavingBlock .returned ∧
      ∀ o, BlockEnds leavingBlock o → o ≠ .normal := by
  refine ⟨by decide, ?_, (blockAlwaysExits_sound (by decide)).2⟩
  refine .cons (.lastRound (o := .broke) rfl (.stop (.breakLoop _) (by decide)) rfl) ?_
  exact .stop (.branch List.mem_cons_self (.stop (.ret _ _) (by decide))) (by decide)

end Oxidize.IR
