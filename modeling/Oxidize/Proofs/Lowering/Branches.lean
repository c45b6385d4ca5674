import Oxidize.Proofs.Lowering.Steps

/-!
# Branches stay where they are written

A chain of `if` statements, each alone in the `else` of the one before, is taken over as one choice
with further branches. Read as a chain again, at any depth, it is what taking over each statement
where it is written gives (`stmt_ifStmt_nested`): every condition and every statement is taken over
once, in order and in its own branch.
-/

namespace Oxidize

namespace IR

mutual

/-- The statement with each further branch of a choice as a choice that is alone in the last branch
of the one before. A further branch has no line, so the lines of choices are left out. -/
def Stmt.nested : Stmt → Stmt
  | .ifStmt condition thenBody elifs elseBody _ =>
    .ifStmt condition (nestedBlock thenBody) [] (nestedElse (nestedBlock elseBody) elifs) none
  | .whileLoop condition body line => .whileLoop condition (nestedBlock body) line
  | .forLoop target source body line => .forLoop target source (nestedBlock body) line
  | .withBlock context target body line => .withBlock context target (nestedBlock body) line
  | .tryBlock body handlers elseBody finallyBody line =>
    .tryBlock (nestedBlock body) (nestedHandlers handlers) (nestedBlock elseBody)
      (nestedBlock finallyBody) line
  | s => s

def nestedBlock : List Stmt → List Stmt
  | [] => []
  | s :: rest => s.nested :: nestedBlock rest

def nestedElse (last : List Stmt) : List Elif → List Stmt
  | [] => last
  | (condition, body) :: rest =>
    [.ifStmt condition (nestedBlock body) [] (nestedElse last rest) none]

def nestedHandlers : List Handler → List Handler
  | [] => []
  | (type, bound, body) :: rest => (type, bound, nestedBlock body) :: nestedHandlers rest

end

lemma nestedBlock_append (body rest : List Stmt) :
    nestedBlock (body ++ rest) = nestedBlock body ++ nestedBlock rest := by
  induction body with
  | nil => rfl
  | cons s body ih => rw [List.cons_append, nestedBlock, nestedBlock, ih, List.cons_append]

lemma nestedBlock_toList (s : Option Stmt) : nestedBlock s.toList = (s.map Stmt.nested).toList := by
  cases s <;> rfl

end IR

namespace Lower

open Syntax (Expr)
open IR (nestedBlock nestedElse nestedHandlers)

mutual

/-- Take over a statement where it is written, whatever stands alone in the `else` of a choice. -/
def writtenStmt : Syntax.Stmt → Lower (Option IR.Stmt)
  | .ifStmt test body orelse _ => do
    let condition ← expr test
    let thenBody ← writtenBlock body
    return some (.ifStmt condition thenBody [] (← writtenBlock orelse) none)
  | .whileLoop test body _ line => do
    let condition ← expr test
    return some (.whileLoop condition (← writtenBlock body) line)
  | .forLoop target source body _ line => do
    let name ← loopTarget target line
    let items ← expr source
    return some (.forLoop name items (← writtenBlock body) line)
  | .withStmt items body line => do
    let (context, target) ← resource items line
    return some (.withBlock context target (← writtenBlock body) line)
  | .tryStmt body arms orelse finalBody line => do
    let tryBody ← writtenBlock body
    let lowered ← writtenHandlers arms
    let elseBody ← writtenBlock orelse
    return some (.tryBlock tryBody lowered elseBody (← writtenBlock finalBody) line)
  | s => stmt s

def writtenBlock : List Syntax.Stmt → Lower (List IR.Stmt)
  | [] => return []
  | s :: rest => do
    let first ← writtenStmt s
    return first.toList ++ (← writtenBlock rest)

def writtenHandlers : List Syntax.Handler → Lower (List IR.Handler)
  | [] => return []
  | (type, bound, body) :: rest => do
    let lowered ← writtenBlock body
    return (errorClass type, bound, lowered) :: (← writtenHandlers rest)

end

/-! ## Statements without blocks -/

lemma Gives.map_eq {α : Type} {f : α → α} {x : Lower α} (h : Gives (fun a => f a = a) x) :
    f <$> x = x := by
  funext s
  show (f <$> x).run s = x.run s
  rw [StateT.run_map]
  cases hrun : x.run s with
  | error error => rfl
  | ok p => exact congrArg (fun a => Except.ok (a, p.2)) (h hrun)

lemma assign_flat (targets : List Expr) (value : Expr) (line : Nat) :
    Gives (fun s => s.nested = s) (assign targets value line) := by
  unfold assign
  split
  · refine .after fun lowered => ?_
    split
    · exact .after fun _ => .pure rfl
    · exact .after fun _ => .after fun _ => .pure rfl
    · exact .after fun _ => .pure rfl
    · exact .after fun _ => .pure rfl
    · exact .throw _ _
  · exact .throw _ _

lemma hintedAssign_flat (target hint : Expr) (value : Option Expr) (line : Nat) :
    Gives (fun s => s.nested = s) (hintedAssign target hint value line) := by
  unfold hintedAssign
  split
  · exact .after fun _ => .after fun _ => .after fun _ => .pure rfl
  · exact .after fun _ => .after fun _ => .after fun _ => .pure rfl
  · exact .throw _ _

lemma update_flat (target : Expr) (op : Syntax.BinOp) (value : Expr) (line : Nat) :
    Gives (fun s => s.nested = s) (update target op value line) := by
  unfold update
  split
  · exact .throw _ _
  · refine .after fun right => ?_
    split
    · exact .after fun _ => .pure rfl
    · exact .pure rfl
    · exact .throw _ _

lemma Gives.some_flat {x : Lower IR.Stmt} (h : Gives (fun s => s.nested = s) x) :
    Gives (fun o : Option IR.Stmt => o.map IR.Stmt.nested = o) (do return some (← x)) :=
  h.bind fun _ hs => .pure (congrArg some hs)

/-! ## Chains -/

/-- The branches collected from an `else` are, as a chain, the block that is written there. -/
lemma nested_elseChain (orelse : List Syntax.Stmt) :
    (fun p => nestedElse (nestedBlock p.2) p.1) <$> elseChain orelse =
      nestedBlock <$> block orelse := by
  unfold elseChain
  split
  · rw [block]
    rfl
  · rw [block, stmt]
    simp [block, nestedBlock, nestedElse, IR.Stmt.nested]
  · rw [block]
    simp [nestedElse]

mutual

lemma nested_stmt (s : Syntax.Stmt) : Option.map IR.Stmt.nested <$> stmt s = writtenStmt s := by
  match s with
  | .ifStmt test body orelse line =>
    rw [stmt, writtenStmt, ← nested_block body, ← nested_block orelse, ← nested_elseChain orelse]
    simp [IR.Stmt.nested]
  | .whileLoop _ body _ _ | .forLoop _ _ body _ _ | .withStmt _ body _ =>
    rw [stmt, writtenStmt, ← nested_block body]
    simp [IR.Stmt.nested]
  | .tryStmt body arms orelse finalBody line =>
    rw [stmt, writtenStmt, ← nested_block body, ← nested_handlers arms, ← nested_block orelse,
      ← nested_block finalBody]
    simp [IR.Stmt.nested]
  | .assign targets value line => exact (assign_flat targets value line).some_flat.map_eq
  | .annAssign target hint value line => exact (hintedAssign_flat target hint value line).some_flat.map_eq
  | .augAssign target op value line => exact (update_flat target op value line).some_flat.map_eq
  | .ret .. | .raise .. | .expr .. => exact Gives.map_eq (.after fun _ => .pure rfl)
  | .breakLoop _ | .continueLoop _ | .pass _ | .importNames .. | .importFrom .. =>
    exact Gives.map_eq (.pure rfl)
  | .functionDef .. | .classDef .. | .other .. => exact Gives.map_eq (.throw _ _)

lemma nested_block (body : List Syntax.Stmt) : nestedBlock <$> block body = writtenBlock body := by
  match body with
  | [] => rfl
  | s :: rest =>
    rw [block, writtenBlock, ← nested_stmt s, ← nested_block rest]
    simp [IR.nestedBlock_append, IR.nestedBlock_toList]

lemma nested_handlers (arms : List Syntax.Handler) :
    nestedHandlers <$> handlers arms = writtenHandlers arms := by
  match arms with
  | [] => rfl
  | (type, bound, body) :: rest =>
    rw [handlers, writtenHandlers, ← nested_block body, ← nested_handlers rest]
    simp [nestedHandlers]

end

end Lower

end Oxidize
