import Oxidize.IR.Basic

/-!
# Which declarations are mutable

A variable that is assigned again or changed by a method is declared mutable: at its last
declaration, or, if it is only declared by unpacking, at its last place in the last unpacked tuple.
-/

namespace Oxidize.Lower

open IR (Expr Stmt)

def mutatingMethods : List String :=
  ["append", "push", "extend", "insert", "pop", "remove", "clear", "sort", "reverse", "increment",
   "decrement", "update", "add", "discard", "recv", "recv_many", "try_recv"]

def isMutating (method : String) : Bool :=
  mutatingMethods.contains method
    || ["set_", "remove_", "add_"].any fun start => Text.startsWith method start

mutual

/-- The variables that an expression changes by a method call, at its top or among the arguments of
a function call. -/
def changedBy : Expr → List String
  | .method (.name n _) method _ _ _ => if isMutating method then [n] else []
  | .call _ args _ _ => changedByAll args
  | .await value _ => changedBy value
  | _ => []

def changedByAll : List Expr → List String
  | [] => []
  | e :: es => changedBy e ++ changedByAll es

end

/-- The names that a part of a body declares by assignment, declares by unpacking, and changes. -/
structure Names where
  declared : List String := []
  unpacked : List String := []
  changed : List String := []
  deriving DecidableEq

namespace Names

def append (a b : Names) : Names :=
  ⟨a.declared ++ b.declared, a.unpacked ++ b.unpacked, a.changed ++ b.changed⟩

instance : Append Names := ⟨append⟩

end Names

mutual

def stmtNames : Stmt → Names
  | .assign target value _ declares _ _ =>
    if declares then { declared := [target], changed := changedBy value }
    else { changed := target :: changedBy value }
  | .tupleUnpack targets _ _ _ _ _ => { unpacked := targets }
  | .expr value _ => { changed := changedBy value }
  | .ifStmt _ thenBody _ elseBody _ => blockNames thenBody ++ blockNames elseBody
  | .forLoop _ _ body _ | .whileLoop _ body _ | .withBlock _ _ body _ => blockNames body
  | .tryBlock body handlers _ finallyBody _ =>
    blockNames body ++ blockNames finallyBody ++ handlerNames handlers
  | _ => {}

def blockNames : List Stmt → Names
  | [] => {}
  | s :: rest => stmtNames s ++ blockNames rest

def handlerNames : List IR.Handler → Names
  | [] => {}
  | (_, _, body) :: rest => blockNames body ++ handlerNames rest

end

/-- The variables whose declaration is still to be marked. -/
structure Pending where
  assigned : NameSet := []
  unpacked : NameSet := []
  deriving DecidableEq

/-- Marking goes through a body from its end and marks the first declaration it meets. -/
abbrev Mark (α : Type) := StateM Pending α

/-- Mark a declaration, unless a later one was marked. -/
def markAssigned (target : String) : Mark Bool := do
  if (← get).assigned.contains target then
    modify fun p => { p with assigned := p.assigned.discard target }
    return true
  else return false

def markTargets : List String → Mark (List Bool)
  | [] => return []
  | target :: rest => do
    let later ← markTargets rest
    if (← get).unpacked.contains target then
      modify fun p => { p with unpacked := p.unpacked.discard target }
      return true :: later
    else return false :: later

mutual

def markStmt : Stmt → Mark Stmt
  | .assign target value annot declares mutable line => do
    let marked ← if declares then markAssigned target else pure false
    return .assign target value annot declares (mutable || marked) line
  | .tupleUnpack targets value annots declares mutables line => do
    let marks ← markTargets targets
    return .tupleUnpack targets value annots declares
      (if marks.any id then marks else mutables) line
  | .ifStmt condition thenBody elifs elseBody line => do
    let elseMarked ← markBlock elseBody
    return .ifStmt condition (← markBlock thenBody) elifs elseMarked line
  | .forLoop target source body line => return .forLoop target source (← markBlock body) line
  | .whileLoop condition body line => return .whileLoop condition (← markBlock body) line
  | .withBlock context target body line =>
    return .withBlock context target (← markBlock body) line
  | .tryBlock body handlers elseBody finallyBody line => do
    let handlersMarked ← markHandlers handlers
    let finallyMarked ← markBlock finallyBody
    return .tryBlock (← markBlock body) handlersMarked elseBody finallyMarked line
  | s => return s

def markBlock : List Stmt → Mark (List Stmt)
  | [] => return []
  | s :: rest => do
    let later ← markBlock rest
    return (← markStmt s) :: later

def markHandlers : List IR.Handler → Mark (List IR.Handler)
  | [] => return []
  | (type, bound, body) :: rest => do
    let later ← markHandlers rest
    return (type, bound, ← markBlock body) :: later

end

def markMutable (body : List Stmt) : List Stmt :=
  let names := blockNames body
  let changed := NameSet.ofList names.changed
  let pending : Pending :=
    { assigned := changed.filter names.declared.contains
      unpacked := changed.filter fun n =>
        names.unpacked.contains n && !names.declared.contains n }
  (markBlock body pending).1

end Oxidize.Lower
