import Oxidize.Lower.Expr

/-!
# Taking over statements

An assignment declares its variable if no scope defines it yet; an assignment with a type hint
always declares.
-/

namespace Oxidize.Lower

open Syntax (Expr)

def unpackNames (line : Nat) : List Expr → Lower (List String)
  | [] => return []
  | e :: es => do
    match e.name? with
    | some name =>
      let _ ← declare name line
      return name :: (← unpackNames line es)
    | none => unsupported .unpackTarget line

def assign (targets : List Expr) (value : Expr) (line : Nat) : Lower IR.Stmt := do
  match targets with
  | [target] =>
    let lowered ← expr value
    match target with
    | .attribute obj attr _ _ => return .attrAssign (← expr obj) attr lowered none line
    | .subscript obj index _ _ =>
      let container ← expr obj
      return .subscriptAssign container (← expr index) lowered line
    | .tuple elements _ _ =>
      return .tupleUnpack (← unpackNames line elements) lowered [] true [] line
    | .name id _ _ => return .assign id lowered none (← declare id line) false line
    | _ => unsupported .assignTarget line
  | _ => unsupported .severalTargets line

def hintedAssign (target hint : Expr) (value : Option Expr) (line : Nat) : Lower IR.Stmt := do
  match target with
  | .attribute obj attr _ _ =>
    let owner ← expr obj
    let type ← readHint (some attr) hint
    return .attrAssign owner attr (← operand value) (some type) line
  | .name id _ _ =>
    let type ← readHint (some id) hint
    let lowered ← operand value
    define id line
    return .assign id lowered (some type) true false line
  | _ => unsupported .hintedTarget line

def update (target : Expr) (op : Syntax.BinOp) (value : Expr) (line : Nat) : Lower IR.Stmt := do
  match binOp? op with
  | none => unsupported (.updateOperator op.name) line
  | some o =>
    let right ← expr value
    match target with
    | .attribute obj attr _ _ =>
      let owner ← expr obj
      return .attrAssign owner attr (.binary o (.attr owner attr none) right none) none line
    | .name id _ _ =>
      return .assign id (.binary o (.name id none) right none) none false true line
    | _ => unsupported .updateTarget line

def loopTarget (target : Expr) (line : Nat) : Lower String :=
  match target.name? with
  | some name => return name
  | none => unsupported .loopTarget line

/-- The resource of a `with` statement, and the variable it is bound to. -/
def resource (items : List (Expr × Option Expr)) (line : Nat) :
    Lower (IR.Expr × Option String) := do
  match items with
  | [(context, target)] =>
    let lowered ← expr context
    match target with
    | none => return (lowered, none)
    | some e =>
      match e.name? with
      | some name => return (lowered, some name)
      | none => unsupported .resourceTarget line
  | _ => unsupported .severalResources line

def errorClass : Option Expr → Option String
  | some (.name id _ _) => some id
  | some (.attribute _ attr _ _) => some attr
  | _ => none

mutual

/-- Take over a statement. Imports inside of a body are dropped. -/
def stmt : Syntax.Stmt → Lower (Option IR.Stmt)
  | .assign targets value line => return some (← assign targets value line)
  | .annAssign target hint value line => return some (← hintedAssign target hint value line)
  | .augAssign target op value line => return some (← update target op value line)
  | .ret value line => return some (.ret (← operand value) line)
  | .ifStmt test body orelse line => do
    let condition ← expr test
    let thenBody ← block body
    let (elifs, elseBody) ← elseChain orelse
    return some (.ifStmt condition thenBody elifs elseBody line)
  | .whileLoop test body _ line => do
    let condition ← expr test
    return some (.whileLoop condition (← block body) line)
  | .forLoop target source body _ line => do
    let name ← loopTarget target line
    let items ← expr source
    return some (.forLoop name items (← block body) line)
  | .breakLoop line => return some (.breakLoop line)
  | .continueLoop line => return some (.continueLoop line)
  | .pass line => return some (.pass line)
  | .expr value line => return some (.expr (← expr value) line)
  | .withStmt items body line => do
    let (context, target) ← resource items line
    return some (.withBlock context target (← block body) line)
  | .tryStmt body arms orelse finalBody line => do
    let tryBody ← block body
    let lowered ← handlers arms
    let elseBody ← block orelse
    return some (.tryBlock tryBody lowered elseBody (← block finalBody) line)
  | .raise error _ line => return some (.raise (← operand error) line)
  | .importNames _ _ => return none
  | .importFrom _ _ _ => return none
  | .functionDef isAsync _ _ _ _ _ line =>
    unsupported (if isAsync then .statement "AsyncFunctionDef" else .nestedFunction) line
  | .classDef _ _ _ _ _ line => unsupported .nestedClass line
  | .other kind _ _ line => unsupported (.statement kind) line

def block : List Syntax.Stmt → Lower (List IR.Stmt)
  | [] => return []
  | s :: rest => do
    let first ← stmt s
    return first.toList ++ (← block rest)

/-- Take over the `else` of a choice: further branches, as long as it holds one `if` statement
alone, and then the last branch. -/
def elseChain : List Syntax.Stmt → Lower (List IR.Elif × List IR.Stmt)
  | [] => return ([], [])
  | [.ifStmt test body orelse _] => do
    let condition ← expr test
    let branch ← block body
    let (elifs, elseBody) ← elseChain orelse
    return ((condition, branch) :: elifs, elseBody)
  | s :: rest => do
    let first ← stmt s
    return ([], first.toList ++ (← block rest))

def handlers : List Syntax.Handler → Lower (List IR.Handler)
  | [] => return []
  | (type, bound, body) :: rest => do
    let lowered ← block body
    return (errorClass type, bound, lowered) :: (← handlers rest)

end

end Oxidize.Lower
