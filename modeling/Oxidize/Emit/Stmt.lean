import Oxidize.Emit.Assign

/-!
# Statements

A choice whose branches assign the same new variable declares it first; a condition that checks
variables for being something takes them out of their options; and a check for nothing that leaves
the function lets all later statements take the variable as something.
-/

namespace Oxidize.Emit

open IR (Expr Stmt Ty)

def keepingTail {α : Type} (body : Emit α) : Emit α := do
  let before := (← context).inLastStmt
  let a ← body
  change fun c => { c with inLastStmt := before }
  return a

def assignedHere (body : List Stmt) : List String :=
  body.filterMap fun
    | .assign target .. => if target == "" then none else some target
    | _ => none

def firstAnnot? (body : List Stmt) (target : String) : Option Ty :=
  (body.findSome? fun
    | .assign t _ annot _ _ _ => if t == target then some annot else none
    | _ => none).getD none

def sharedVars (thenBody : List Stmt) (elifs : List IR.Elif) (elseBody : List Stmt) :
    List String :=
  let others := (elifs.flatMap fun branch => assignedHere branch.2) ++ assignedHere elseBody
  (assignedHere thenBody).filter others.contains

/-- The variables that both the first branch and another one assign and that are not known yet, in
the order of their names. -/
def hoistable (facts : Facts) (thenBody : List Stmt) (elifs : List IR.Elif)
    (elseBody : List Stmt) : List String :=
  NameSet.sorted (NameSet.ofList
    ((sharedVars thenBody elifs elseBody).filter fun v => !facts.typeEnv.has v))

def hoist (thenBody : List Stmt) (target : String) : Emit Code := do
  let type ← (firstAnnot? thenBody target).mapM fun t => return (← resolve t).render
  learn fun facts => { facts with hoisted := facts.hoisted.add target }
  return .hoist target type

/-- The head of a branch: a pattern that takes variables out of their options if the condition
checks them, else the condition. -/
def branchHead (condition : Expr) : Emit Head := do
  match condition.somethingVars with
  | [] => return .test (← written condition)
  | vars => return .pattern condition vars

/-- Run the body of a branch with the variables that its condition takes out of their options. -/
def withUnwrapped {α : Type} (vars : List String) (body : Emit α) : Emit α := do
  change fun c => { c with unwrapped := c.unwrapped.addAll vars }
  let a ← body
  change fun c => { c with unwrapped := vars.foldl NameSet.discard c.unwrapped }
  return a

def choiceExits (thenBody : List Stmt) (elifs : List IR.Elif) (elseBody : List Stmt) :
    Bool :=
  !elseBody.isEmpty && IR.blockAlwaysExits thenBody && IR.blockAlwaysExits elseBody
    && IR.elifsAlwaysExit elifs

/-- The variables that are something after a choice, because it checks them for nothing and leaves
the function if they are. -/
def guardedVars (condition : Expr) (thenBody : List Stmt) (elifs : List IR.Elif)
    (elseBody : List Stmt) : List String :=
  if elifs.isEmpty && elseBody.isEmpty && IR.blockAlwaysExits thenBody then condition.nothingVars
  else []

/-- The types that own what they hold, so that a value of them cannot be moved out of a borrowed
object. -/
def owningTypes : List String :=
  ["String", "Vec<", "HashMap<", "HashSet<", "PathBuf", "BTreeMap<"]

def clonedField (value : Expr) (code : String) : Emit String := do
  let c ← context
  match value with
  | .attr (.name owner _) _ _ =>
    let owns := owningTypes.any fun t => Text.startsWith (c.returnType.getD "") t
    return if c.inImpl && owner == "self" && owns then s!"{code}.clone()" else code
  | _ => return code

def ret (value : Expr) : Emit Code := do
  match value with
  | .absent => return .leave [] "return;"
  | _ =>
    change fun c => { c with inDirectReturn := true }
    let w ← written value
    change fun c => { c with inDirectReturn := false }
    let code ← clonedField value w.text
    let c ← context
    let code := if c.inOption && code != "None" then s!"Some({code})" else code
    return .leave [w] (if c.inLastStmt then code else s!"return {code};")

def raise (error : Expr) : Emit Code := do
  match error with
  | .absent => return .leave [] "panic!(\"re-raise\");"
  | .call _ (arg :: _) _ _ =>
    let w ← written arg
    return .leave [w] s!"return Err({w.text});"
  | .call func [] _ _ =>
    let w ← written func
    return .leave [w] s!"return Err(\"{w.text}\".to_string());"
  | _ =>
    let w ← written error
    return .leave [w] s!"return Err({w.text});"

def isTemporary : Expr → Bool
  | .method (.name obj _) method _ _ _ =>
    obj == "tempfile" && (method == "TemporaryDirectory" || method == "NamedTemporaryFile")
  | _ => false

/-- The declarations at the beginning of a `with` block. -/
def withBindings (c : Context) (resource : Expr) (target : Option String) (w : Written) :
    List Code :=
  match target.filter (· != "") with
  | some name =>
    let binding := c.bindingName name
    if isTemporary resource then
      let path := Written.ofText "_temp_ctx.path().to_string_lossy().to_string()"
      [.declare .resource none false "_temp_ctx" none (some w),
       .declare .resource (some name) false binding none (some path)]
    else
      let isMut := binding == name && c.mutVars.contains name
      [.declare .resource (some name) isMut binding none (some w)]
  | none => [.declare .resource none false "_ctx" none (some w)]

/-- A fallible call whose result is matched, written without handling it. -/
def unhandled (value : Expr) (target : Option String) : Emit Written := do
  let before ← context
  change fun c => { c with
    inResult := true, inDirectReturn := false, storesResult := true, targetType := target }
  let w ← written value
  change fun c => { c with
    inResult := before.inResult
    inDirectReturn := before.inDirectReturn
    storesResult := before.storesResult
    targetType := before.targetType }
  return w

/-- The fallible call that a `try` statement begins with, and the name its value is bound to. -/
structure Attempt where
  call : Written
  value : Option (String × Bool)

/-- Note the type of the value of the call that a `try` statement begins with. -/
def noteAttemptType (target : String) (annot : Option Ty) : Emit Unit := do
  match annot with
  | some t =>
    learn fun facts => facts.noteType target t
    noteOption target ((← resolve t).name == "Option")
  | none => return ()

/-- The fallible call that a `try` statement begins with. -/
def attempt? (first : Stmt) : Emit (Option Attempt) := do
  match first with
  | .assign target value annot _ mutable _ =>
    if !(← exprLeavesResult value) then return none
    else
      let type ← annot.mapM fun t => return (← resolve t).render
      let call ← unhandled value type
      noteAttemptType target annot
      return some ⟨call, some (target, mutable || (← context).mutVars.contains target)⟩
  | .expr value _ =>
    if ← exprLeavesResult value then return some ⟨← unhandled value none, none⟩ else return none
  | _ => return none

def errorName (bound : Option String) : String :=
  (bound.filter (· != "")).getD "_err"

def markTail (isLast : Bool) : Emit Unit :=
  change fun c => { c with inLastStmt := isLast }

mutual

def stmtCode : Stmt → Emit (List Code)
  | .assign target value annot declares mutable _ =>
    return [← assign target value annot declares mutable]
  | .tupleUnpack targets value annots _ mutables _ =>
    return [← tupleUnpack targets value annots mutables]
  | .attrAssign obj member value _ _ => return [← attrAssign obj member value]
  | .subscriptAssign obj index value _ => return [← subscriptAssign obj index value]
  | .ret value _ => return [← ret value]
  | .ifStmt condition thenBody elifs elseBody _ => do
    let c ← context
    let tail := c.inLastStmt && choiceExits thenBody elifs elseBody
    let hoisted ← (hoistable c thenBody elifs elseBody).mapM (hoist thenBody)
    let head ← branchHead condition
    let first ← indented (withUnwrapped condition.somethingVars
      (keepingTail (blockCode tail [] thenBody 0)))
    let branches ← elifCode tail elifs
    let otherwise ← indented (keepingTail (blockCode tail [] elseBody 0))
    learn fun facts => { facts with
      narrowed := facts.narrowed.addAll (guardedVars condition thenBody elifs elseBody) }
    return hoisted ++ [.choice ((head, first.1.flatten) :: branches) otherwise.1.flatten]
  | .whileLoop condition body _ => do
    let w ← written condition
    let (codes, _) ← indented (keepingTail (blockCode false [] body 0))
    return [.whileLoop w codes.flatten]
  | .forLoop target source body _ => do
    let items ← written source
    let binding := (← context).bindingName target
    let (codes, _) ← indented (keepingTail (blockCode false [] body 0))
    return [.forLoop target binding items codes.flatten]
  | .breakLoop _ => return [.breakLoop]
  | .continueLoop _ => return [.continueLoop]
  | .pass _ => return [.line [] "// pass"]
  | .other kind _ => return [.line [] s!"// Unsupported: {kind}"]
  | .expr value _ => do
    let w ← written value
    return [.line [w] s!"{w.text};"]
  | .withBlock resource target body _ => do
    let w ← written resource
    let bindings := withBindings (← context) resource target w
    let (codes, _) ← indented (keepingTail (blockCode false [] body 0))
    return [.scope (bindings ++ codes.flatten) " // drop"]
  | .tryBlock body [] elseBody finallyBody _ => do
    let (codes, _) ← indented (keepingTail (blockCode false [] body 0))
    let (elseCodes, _) ← keepingTail (blockCode false [] elseBody 0)
    let (finalCodes, _) ← keepingTail (blockCode false [] finallyBody 0)
    let cleanup :=
      if finallyBody.isEmpty then [] else .line [] "// finally block" :: finalCodes.flatten
    return .scope codes.flatten "" :: elseCodes.flatten ++ cleanup
  | .tryBlock _ (_ :: _) _ (_ :: _) line => throw (.cleanupAfterHandlers line)
  | .tryBlock [] (_ :: _) _ [] line => throw (.handlersWithoutResult line)
  | .tryBlock (first :: rest) ((_, bound, handler) :: _) elseBody [] line => do
    match ← attempt? first with
    | none => throw (.handlersWithoutResult line)
    | some a =>
      let tail := (← context).inLastStmt
      let okBody ← indented <| indented <| keepingTail do
        let (codes, skip) ← blockCode tail elseBody rest 0
        let (more, _) ← blockCode tail [] elseBody skip
        return codes.flatten ++ more.flatten
      let (errCodes, _) ← indented (indented (keepingTail (blockCode tail [] handler 0)))
      return [.attempt a.call a.value okBody (errorName bound) errCodes.flatten]
  | .raise error _ => return [← raise error]
termination_by structural s => s

/-- Write the statements of a block, each by itself, with lists that are filled at once declared
with their elements. The statements `following` come after the block and are only looked at, and
the first `skip` statements are already written. The result holds the number of statements after
the block that are already written. -/
def blockCode (tail : Bool) (following : List Stmt) :
    List Stmt → Nat → Emit (List (List Code) × Nat)
  | [], skip => return ([], skip)
  | _ :: rest, skip + 1 => blockCode tail following rest skip
  | s :: rest, 0 => do
    match ← filledList? s (rest ++ following) with
    | some (code, pushes) =>
      markTail false
      let (codes, skip) ← blockCode tail following rest pushes
      return ([code] :: codes, skip)
    | none =>
      markTail (tail && rest.isEmpty && following.isEmpty)
      let code ← stmtCode s
      let (codes, skip) ← blockCode tail following rest 0
      return (code :: codes, skip)

def elifCode (tail : Bool) : List IR.Elif → Emit (List Branch)
  | [] => return []
  | (condition, body) :: branches => do
    let head ← branchHead condition
    let (codes, _) ← indented (withUnwrapped condition.somethingVars
      (keepingTail (blockCode tail [] body 0)))
    let others ← elifCode tail branches
    return (head, codes.flatten) :: others

end

def stmt (s : Stmt) : Emit String := do
  let depth := (← context).indent
  return Code.blockText depth (← stmtCode s)

def block (tail : Bool) (body : List Stmt) : Emit (List String) := do
  let depth := (← context).indent
  let (codes, _) ← keepingTail (blockCode tail [] body 0)
  return codes.map (Code.blockText depth)

end Oxidize.Emit
