import Mathlib.Tactic.Lemma
import Oxidize.Emit.Class

/-!
# The outline of a body

Which lines are written for a statement, which names they bind and which expressions they hold is
decided by the statement and by what is known about variables, whatever the texts turn out to be.
The outline of a statement is the code that is written for it without the texts, together with what
is known after it.
-/

namespace Oxidize

open IR (Expr Stmt Ty Param)

/-! ## Code without texts -/

def Written.erase (w : Written) : Written :=
  { w with text := "" }

/-- The head of a branch without its text. -/
def Head.erase : Head → Head
  | .test condition => .test condition.erase
  | .pattern condition vars => .pattern condition vars

namespace Code

mutual

/-- A written statement without texts, types and marks of mutability. -/
def erase : Code → Code
  | .line parts _ => .line (parts.map Written.erase) ""
  | .hoist name _ => .hoist name none
  | .declare binder source? _ name _ value =>
    .declare binder source? false name none (value.map Written.erase)
  | .unpack targets _ value => .unpack (targets.map fun t => (t.1, false)) none value.erase
  | .assign name sign value => .assign name sign value.erase
  | .leave parts _ => .leave (parts.map Written.erase) ""
  | .breakLoop => .breakLoop
  | .continueLoop => .continueLoop
  | .choice branches otherwise => .choice (eraseBranches branches) (eraseBlock otherwise)
  | .whileLoop condition body => .whileLoop condition.erase (eraseBlock body)
  | .forLoop target name items body => .forLoop target name items.erase (eraseBlock body)
  | .scope body _ => .scope (eraseBlock body) ""
  | .attempt call value okBody error errBody =>
    .attempt call.erase (value.map fun v => (v.1, false)) (eraseBlock okBody) error
      (eraseBlock errBody)

/-- The statements of a block without texts. -/
def eraseBlock : List Code → List Code
  | [] => []
  | c :: cs => c.erase :: eraseBlock cs

def eraseBranches : List Branch → List Branch
  | [] => []
  | (head, body) :: branches => (head.erase, eraseBlock body) :: eraseBranches branches

end

lemma eraseBlock_append (cs ds : List Code) :
    eraseBlock (cs ++ ds) = eraseBlock cs ++ eraseBlock ds := by
  induction cs with
  | nil => simp [eraseBlock]
  | cons c cs ih => simp [eraseBlock, ih]

end Code

/-! ## What a statement leaves behind -/

namespace Facts

def use (facts : Facts) (e : Expr) : Written :=
  ⟨e, facts.narrowed, ""⟩

def noteAnnot (facts : Facts) (target : String) : Option Ty → Facts
  | some t => facts.noteType target t
  | none => facts

def hoist (facts : Facts) (vars : List String) : Facts :=
  { facts with hoisted := facts.hoisted.addAll vars }

/-- What is known after a check for nothing that leaves the function. -/
def guard (facts : Facts) (vars : List String) : Facts :=
  { facts with narrowed := facts.narrowed.addAll vars }

def enter (facts : Facts) (params : List Param) (body : List Stmt) : Facts :=
  { params.foldl (fun known p => known.noteType p.name p.type) facts with
    readVars := IR.readVars body, assignmentCounts := IR.assignmentCounts body }

end Facts

structure Outline where
  /-- The code without texts. -/
  codes : List Code
  known : Facts
  /-- The number of statements after it that are already written. -/
  skip : Nat := 0

namespace Outline

open Emit

def assign (facts : Facts) (target : String) (value : Expr) (annot : Option Ty)
    (declares : Bool) : Code × Facts :=
  let known := facts.noteValue target value annot
  if declares then
    if known.hoisted.contains target then (.assign target "=" (known.use value), known)
    else
      let initial := if value.isAbsent && annot.isSome then none else some (known.use value)
      (.declare .declaration (some target) false (known.bindingName target) none initial,
        known.noteAnnot target annot)
  else
    let (sign, operand) := updateParts target value
    (.assign target sign (known.use operand), known)

def attrAssign (facts : Facts) (obj : Expr) (member : String) (value : Expr) : Code :=
  let operand := ((fieldUpdate? member value).map Prod.snd).getD value
  .line [facts.use obj, facts.use operand] ""

def filled (facts : Facts) (fill : Filling) (later : List Stmt) : Code × Facts :=
  let code := assign (fillingFacts facts fill.target later) fill.target
    (.list fill.elements fill.line) fill.annot true
  (code.1, { code.2 with readVars := facts.readVars })

def head (facts : Facts) (condition : Expr) : Head :=
  match condition.somethingVars with
  | [] => .test (facts.use condition)
  | vars => .pattern condition vars

/-- The outline of a line that leaves the function with a value, of which `shown` is written. -/
def leave (facts : Facts) (value shown : Expr) : Code :=
  .leave (if value.isAbsent then [] else [facts.use shown]) ""

def raised : Expr → Expr
  | .call _ (arg :: _) _ _ => arg
  | .call func [] _ _ => func
  | error => error

def withBindings (facts : Facts) (resource : Expr) (target : Option String) : List Code :=
  let declare (source? : Option String) (name : String) (value : Written) : Code :=
    .declare .resource source? false name none (some value)
  match target.filter (· != "") with
  | some name =>
    if isTemporary resource then
      [declare none "_temp_ctx" (facts.use resource),
       declare (some name) (facts.bindingName name) (Written.ofText "")]
    else [declare (some name) (facts.bindingName name) (facts.use resource)]
  | none => [declare none "_ctx" (facts.use resource)]

/-- The outline of the fallible call that a `try` statement begins with, if it begins with a call:
the call, the name for its value, and what is known after it. -/
def attempt? (facts : Facts) : Stmt → Option (Written × Option (String × Bool) × Facts)
  | .assign target value annot _ _ _ =>
    some (facts.use value, some (target, false), facts.noteAnnot target annot)
  | .expr value _ => some (facts.use value, none, facts)
  | _ => none

mutual

def stmt (facts : Facts) : Stmt → Outline
  | .assign target value annot declares _ _ =>
    let code := assign facts target value annot declares
    ⟨[code.1], code.2, 0⟩
  | .tupleUnpack targets value _ _ _ _ =>
    ⟨[.unpack (targets.map (·, false)) none (facts.use value)], facts, 0⟩
  | .attrAssign obj member value _ _ => ⟨[attrAssign facts obj member value], facts, 0⟩
  | .subscriptAssign obj index value _ =>
    ⟨[.line [facts.use obj, facts.use index, facts.use value] ""], facts, 0⟩
  | .ret value _ => ⟨[leave facts value value], facts, 0⟩
  | .ifStmt condition thenBody elifs elseBody _ =>
    let vars := hoistable facts thenBody elifs elseBody
    let known := facts.hoist vars
    let first := block known [] thenBody 0
    let branches := elifBranches first.known elifs
    let otherwise := block branches.2 [] elseBody 0
    ⟨vars.map (.hoist · none)
        ++ [.choice ((head known condition, first.codes) :: branches.1) otherwise.codes],
      otherwise.known.guard (guardedVars condition thenBody elifs elseBody), 0⟩
  | .whileLoop condition body _ =>
    let inner := block facts [] body 0
    ⟨[.whileLoop (facts.use condition) inner.codes], inner.known, 0⟩
  | .forLoop target source body _ =>
    let inner := block facts [] body 0
    ⟨[.forLoop target (facts.bindingName target) (facts.use source) inner.codes], inner.known, 0⟩
  | .breakLoop _ => ⟨[.breakLoop], facts, 0⟩
  | .continueLoop _ => ⟨[.continueLoop], facts, 0⟩
  | .pass _ => ⟨[.line [] ""], facts, 0⟩
  | .other _ _ => ⟨[.line [] ""], facts, 0⟩
  | .expr value _ => ⟨[.line [facts.use value] ""], facts, 0⟩
  | .withBlock resource target body _ =>
    let inner := block facts [] body 0
    ⟨[.scope (withBindings facts resource target ++ inner.codes) ""], inner.known, 0⟩
  | .tryBlock body [] elseBody finallyBody _ =>
    let inner := block facts [] body 0
    let after := block inner.known [] elseBody 0
    let final := block after.known [] finallyBody 0
    let cleanup := if finallyBody.isEmpty then [] else .line [] "" :: final.codes
    ⟨.scope inner.codes "" :: after.codes ++ cleanup, final.known, 0⟩
  | .tryBlock (first :: rest) ((_, bound, handler) :: _) elseBody [] _ =>
    match attempt? facts first with
    | some (call, value, known) =>
      let success := block known elseBody rest 0
      let after := block success.known [] elseBody success.skip
      let failure := block after.known [] handler 0
      ⟨[.attempt call value (success.codes ++ after.codes) (errorName bound) failure.codes],
        failure.known, 0⟩
    | none => ⟨[], facts, 0⟩
  | .tryBlock .. => ⟨[], facts, 0⟩
  | .raise error _ => ⟨[leave facts error (raised error)], facts, 0⟩
termination_by structural s => s

/-- The outline of a block of which the first `skip` statements are already written. -/
def block (facts : Facts) (following : List Stmt) : List Stmt → Nat → Outline
  | [], skip => ⟨[], facts, skip⟩
  | _ :: rest, skip + 1 => block facts following rest skip
  | s :: rest, 0 =>
    match filling? s (rest ++ following) with
    | some fill =>
      let code := filled facts fill ((rest ++ following).drop fill.elements.length)
      let later := block code.2 following rest fill.elements.length
      ⟨code.1 :: later.codes, later.known, later.skip⟩
    | none =>
      let first := stmt facts s
      let later := block first.known following rest 0
      ⟨first.codes ++ later.codes, later.known, later.skip⟩

def elifBranches (facts : Facts) : List IR.Elif → List Branch × Facts
  | [] => ([], facts)
  | (condition, body) :: branches =>
    let inner := block facts [] body 0
    let others := elifBranches inner.known branches
    ((head facts condition, inner.codes) :: others.1, others.2)

end

end Outline

end Oxidize
