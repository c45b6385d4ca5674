import Oxidize.Analysis.Usage
import Oxidize.Emit.Context
import Oxidize.Library.Builtin

/-!
# What is known about the value of an expression

The type of an expression, with the crate that the type comes from, as far as imports, annotations
and the mappings of packages tell; and whether a call leaves a fallible result.

Before a function is written, its body is searched for variables that are changed in place: by a
method that changes its receiver, by an assignment to one of their fields or items, or by being
passed on to a parameter that borrows mutably.
-/

namespace Oxidize

structure KnownType where
  name : String
  crate : Option String := none
  deriving DecidableEq

namespace Context

def packageName (c : Context) (name : String) : String :=
  (c.importAliases.get? name).getD name

def lastPart (name : String) : String :=
  Text.afterLast name "."

/-- The crate that a type was imported from, under its own name or under an alias. -/
def crateOfType? (c : Context) (type : String) : Option String :=
  if type == "" then none
  else
    let simple := lastPart type
    match c.crateImports.get? simple with
    | some crate => some crate
    | none => (c.crateImports.find? fun entry => c.packageName entry.1 == simple).map Prod.snd

def knownType (c : Context) (type : String) : KnownType :=
  ⟨c.packageName (lastPart type), c.crateOfType? type⟩

def importedType? (c : Context) (name : String) : Option KnownType :=
  (c.crateImports.get? name).map fun crate => ⟨c.packageName name, some crate⟩

def pointerContent? (c : Context) (param : String) : Except EmitError (Option KnownType) :=
  match c.paramTypes.get? param with
  | some (.generic outer (inner :: _)) =>
    if ["Data", "Arc", "Box", "Rc", "RefCell"].contains (lastPart outer) then
      match inner with
      | .cls name _ => .ok (some ⟨name, c.crateOfType? name⟩)
      | .prim _ => .error .builtinAsClass
      | _ => .ok none
    else .ok none
  | _ => .ok none

def isPathVar (c : Context) (name : String) : Bool :=
  match c.typeEnv.get? name with
  | some type => type != "" && lastPart type == "Path"
  | none => false

end Context

namespace Emit

def namesClass (name : String) : Emit Bool :=
  match Text.startsUpper? name with
  | some b => return b
  | none => throw .emptyName

/-- The type that a call of a method on a value of a known type has: the one its mapping gives, or
the type itself. -/
def methodType (receiver : KnownType) (method : String) : Emit (Option KnownType) := do
  if receiver.name == "" then return none
  match ← lookup (Registry.method? receiver.name method receiver.crate) with
  | some m =>
    if m.returns.isSet then
      let returned ← orValueFault (m.returns.textFor "split")
      let crate := ((← context).crateOfType? returned).filter (· != "")
      return some ⟨returned, crate <|> receiver.crate⟩
    else return some receiver
  | none => return none

/-- The type of the content that `obj.method(...)` reaches, when the call follows a pointer. -/
def pointerType (obj : IR.Expr) (method : String) : Emit (Option KnownType) := do
  match obj with
  | .name n _ =>
    if method == "get_ref" then liftExcept ((← context).pointerContent? n) else return none
  | _ => return none
where
  liftExcept {α : Type} : Except EmitError α → Emit α
    | .ok a => return a
    | .error e => throw e

def importedName (e : IR.Expr) : Emit (Option KnownType) := do
  match e with
  | .name n _ => return (← context).importedType? n
  | _ => return none

/-- The type of an expression and the crate it comes from, as far as they are known. -/
def inferType : IR.Expr → Emit (Option KnownType)
  | .name n _ => do
    let c ← context
    match c.typeEnv.get? n with
    | some type => return some (c.knownType type)
    | none => return c.importedType? n
  | .attr obj attr _ => do
    match ← inferType obj with
    | some receiver =>
      if receiver.name == "Context" && attr == "state" then
        return some ⟨"State", receiver.crate⟩
      else return none
    | none => return none
  | .method obj method _ _ _ => do
    match ← importedName obj with
    | some type => return some type
    | none =>
      match ← pointerType obj method with
      | some type => return some type
      | none =>
        match ← inferType obj with
        | some receiver => methodType receiver method
        | none => return none
  | .call func _ _ _ => do
    match func with
    | .attr obj _ _ => importedName obj
    | .name n _ =>
      match (← context).importedType? n with
      | some type => if ← namesClass n then return some type else return none
      | none => return none
    | _ => return none
  | _ => return none

def chainStart : IR.Expr → Emit (Option String)
  | .method obj _ _ _ _ => do
    match obj with
    | .name n _ => return if (← context).crateImports.has n then some n else none
    | .method .. => chainStart obj
    | _ => return none
  | .call (.attr (.name n _) _ _) _ _ _ => do
    return if (← context).crateImports.has n then some n else none
  | _ => return none

def leavesResult (m : Option Mapping) : Bool :=
  m.any fun m => m.fallible.isSet

def libraryLeavesResult (module func : String) : Emit Bool := do
  if leavesResult (← lookup (Library.mapping? module func)) then return true
  else return leavesResult (Library.calendar? s!"{module}.{func}")

/-- Does a function of a package leave a fallible result, for a name that is imported from it and
a member of what the name stands for? -/
def packageLeavesResult (name : String) (member : Option String) : Emit Bool := do
  let c ← context
  match c.crateImports.get? name with
  | some crate =>
    let owner := s!"{crate}.{c.packageName name}"
    let key := match member with
      | some m => s!"{owner}.{m}"
      | none => owner
    return leavesResult (← lookup (Registry.function? key))
  | none => return false

def callLeavesResult (func : IR.Expr) : Emit Bool := do
  let c ← context
  match func with
  | .name n _ =>
    if c.resultFunctions.contains n then return true else packageLeavesResult n none
  | .attr (.name type _) func _ =>
    if c.resultFunctions.contains s!"{type}.{func}" then return true
    else if ← packageLeavesResult type (some func) then return true
    else libraryLeavesResult type func
  | _ => return false

def importedLeavesResult (type method : String) : Emit Bool := do
  let c ← context
  match c.crateImports.get? type with
  | some crate =>
    let name := c.packageName type
    if leavesResult (← lookup (Registry.function? s!"{crate}.{name}.{method}")) then return true
    else return leavesResult (← lookup (Registry.method? name method (some crate)))
  | none => return false

def inferredLeavesResult (obj : IR.Expr) (method : String) : Emit Bool := do
  match ← inferType obj with
  | some t =>
    if t.name == "" then return false
    else return leavesResult (← lookup (Registry.method? t.name method t.crate))
  | none => return false

/-- Does a method call leave a fallible result, judged by the inferred type of its receiver or by
the module that the receiver names? -/
def chainLeavesResult (obj : IR.Expr) (method : String) : Emit Bool := do
  if ← inferredLeavesResult obj method then return true
  else
    match obj with
    | .attr (.name n _) attr _ => libraryLeavesResult s!"{n}.{attr}" method
    | _ => return false

def methodLeavesResult (obj : IR.Expr) (method : String) : Emit Bool := do
  let c ← context
  if c.resultFunctions.contains method then return true
  else
    match obj with
    | .name n _ =>
      if ← importedLeavesResult n method then return true
      else if ← libraryLeavesResult n method then return true
      else
        match c.typeEnv.get? n with
        | some type =>
          let t := Context.lastPart type
          return leavesResult
            (← lookup (Registry.method? (c.packageName t) method (c.crateOfType? t)))
        | none => chainLeavesResult obj method
    | _ => chainLeavesResult obj method

def exprLeavesResult : IR.Expr → Emit Bool
  | .call func _ _ _ => callLeavesResult func
  | .method obj method _ _ _ => methodLeavesResult obj method
  | _ => return false

/-! ## Variables that have to be declared mutable -/

open IR (Expr Stmt)

def addMutVar (name : String) : Emit Unit :=
  change fun c => { c with mutVars := c.mutVars.add name }

/-- Note that the expression has to be mutable, if there is one and it is a variable. -/
def addMutName (e? : Option Expr) : Emit Unit :=
  match e?.bind Expr.name? with
  | some n => addMutVar n
  | none => return ()

/-- Note that the object of an assignment has to be mutable, unless it is the receiver of the
method at hand. -/
def addMutObject : Expr → Emit Unit
  | .name n _ => if n == "self" then return () else addMutVar n
  | _ => return ()

def borrowsMut (type : Value) : Emit Bool := do
  if type.isSet then
    return Text.startsWith (← orValueFault (type.textFor "startswith")) "&mut "
  else return false

/-- Note the arguments that are variables and go to a parameter that borrows mutably. -/
def addBorrowed : List Value → List Expr → Emit Unit
  | [], _ => return ()
  | type :: types, args => do
    let borrows ← borrowsMut type
    addMutName (if borrows then args.head? else none)
    addBorrowed types args.tail

/-- Note what a call of a method on the value of another method call borrows mutably. -/
def scanChain (obj : Expr) (method : String) (args : List Expr) : Emit Unit := do
  match obj with
  | .method .. =>
    match ← inferType obj with
    | some t =>
      if t.name == "" then return ()
      match ← lookup (Registry.method? t.name method t.crate) with
      | some m => if m.paramTypes.isSet then addBorrowed (← orValueFault m.paramTypes.listed) args
      | none => return ()
    | none => return ()
  | _ => return ()

def scanMethod (obj : Expr) (method : String) (args : List Expr) : Emit Unit := do
  addMutName (if IR.isChangingMethod method then some obj else none)
  addMutName (if IR.isShuffle obj method args then args.head? else none)
  scanChain obj method args

mutual

def scanExpr : Expr → Emit Unit
  | .method obj method args _ _ => do
    scanMethod obj method args
    scanExprs args
    scanExpr obj
  | .call func args _ _ => do
    scanExprs args
    scanExpr func
  | .binary _ a b _ | .subscript a b _ => do
    scanExpr a
    scanExpr b
  | .unary _ e _ | .attr e _ _ | .await e _ => scanExpr e
  | .list elements _ | .tuple elements _ => scanExprs elements
  | .dict entries _ => scanEntries entries
  | _ => return ()

def scanExprs : List Expr → Emit Unit
  | [] => return ()
  | e :: es => do
    scanExpr e
    scanExprs es

def scanEntries : List (Expr × Expr) → Emit Unit
  | [] => return ()
  | (k, v) :: rest => do
    scanExpr k
    scanExpr v
    scanEntries rest

end

mutual

def scanStmt : Stmt → Emit Unit
  | .assign _ value _ _ _ _ | .expr value _ | .ret value _ => scanExpr value
  | .attrAssign obj _ value _ _ | .subscriptAssign obj _ value _ => do
    scanExpr value
    addMutObject obj
  | .ifStmt condition thenBody _ elseBody _ => do
    scanExpr condition
    scanBlock thenBody
    scanBlock elseBody
  | .forLoop _ e body _ | .whileLoop e body _ | .withBlock e _ body _ => do
    scanExpr e
    scanBlock body
  | .tryBlock body handlers elseBody finallyBody _ => do
    scanBlock body
    scanBlock elseBody
    scanHandlers handlers
    scanBlock finallyBody
  | _ => return ()

def scanBlock : List Stmt → Emit Unit
  | [] => return ()
  | s :: ss => do
    scanStmt s
    scanBlock ss

def scanHandlers : List IR.Handler → Emit Unit
  | [] => return ()
  | (_, _, body) :: rest => do
    scanBlock body
    scanHandlers rest

end

end Emit

end Oxidize
