import Oxidize.Proofs.Body.Outline

/-!
# Names that are visible in written code

A block of written code is walked with the bindings that are visible at each of its statements. The
places of a block are the lines that declare a variable in front of a choice and the lines that
assign a variable without declaring it, each with the bindings visible there. The places of written
code are read off the points of its body (`Outline.blockPlaces_block`).
-/

namespace Oxidize

open IR (Expr Stmt Ty Param)
open Code List

/-! ## Places in written code -/

/-- A line of written code that needs a variable to be bound, or not to be bound. -/
inductive Place where
  | hoist (name : String) (visible : List Binding)
  /-- The variable is assigned and not declared. -/
  | update (name : String) (visible : List Binding)
  deriving DecidableEq

lemma Head.binds_erase (head : Head) : head.erase.binds = head.binds := by
  cases head <;> rfl

variable (facts : Facts) (scope : List Binding) (target : String) (value : Expr)

namespace Code

def binds : Code → List Binding
  | .hoist name _ => [⟨.hoisting, name⟩]
  | .declare binder _ _ name _ _ => [⟨binder, name⟩]
  | .unpack targets _ _ => targets.map fun t => ⟨.unpacking, t.1⟩
  | _ => []

/-- The names that the statements of a block bind for the statements after them. -/
def blockBinds (cs : List Code) : List Binding :=
  cs.flatMap binds

def successBinds (value : Option (String × Bool)) : List Binding :=
  value.toList.map fun v => ⟨.success, v.1⟩

mutual

/-- The places in a statement before which `scope` is visible. -/
def places (scope : List Binding) : Code → List Place
  | .hoist name _ => [.hoist name scope]
  | .assign name _ _ => [.update name scope]
  | .choice branches otherwise => branchPlaces scope branches ++ blockPlaces scope otherwise
  | .whileLoop _ body => blockPlaces scope body
  | .forLoop _ name _ body => blockPlaces (scope ++ [⟨.loop, name⟩]) body
  | .scope body _ => blockPlaces scope body
  | .attempt _ value okBody error errBody =>
    blockPlaces (scope ++ successBinds value) okBody
      ++ blockPlaces (scope ++ [⟨.failure, error⟩]) errBody
  | _ => []

def blockPlaces (scope : List Binding) : List Code → List Place
  | [] => []
  | c :: cs => c.places scope ++ blockPlaces (scope ++ c.binds) cs

def branchPlaces (scope : List Binding) : List Branch → List Place
  | [] => []
  | (head, body) :: branches =>
    blockPlaces (scope ++ head.binds) body ++ branchPlaces scope branches

end

lemma binds_erase (c : Code) : c.erase.binds = c.binds := by
  cases c with
  | unpack targets types value =>
    rw [erase, binds, binds, map_map]
    rfl
  | _ => rfl

lemma successBinds_erase (value : Option (String × Bool)) :
    successBinds (value.map fun v => (v.1, false)) = successBinds value := by
  cases value <;> rfl

mutual

lemma places_erase (scope : List Binding) (c : Code) : c.erase.places scope = c.places scope := by
  match c with
  | .choice branches otherwise =>
    rw [erase, places, places, branchPlaces_erase scope branches, blockPlaces_erase scope otherwise]
  | .whileLoop _ body | .scope body _ =>
    rw [erase, places, places, blockPlaces_erase scope body]
  | .forLoop _ name _ body =>
    rw [erase, places, places, blockPlaces_erase _ body]
  | .attempt _ value okBody error errBody =>
    rw [erase, places, places, successBinds_erase, blockPlaces_erase _ okBody,
      blockPlaces_erase _ errBody]
  | .line .. | .hoist .. | .declare .. | .unpack .. | .assign .. | .leave .. | .breakLoop
  | .continueLoop => rfl

lemma blockPlaces_erase (scope : List Binding) (cs : List Code) :
    blockPlaces scope (eraseBlock cs) = blockPlaces scope cs := by
  match cs with
  | [] => rfl
  | c :: cs =>
    rw [eraseBlock, blockPlaces, blockPlaces, places_erase scope c, binds_erase,
      blockPlaces_erase _ cs]

lemma branchPlaces_erase (scope : List Binding) (branches : List Branch) :
    branchPlaces scope (eraseBranches branches) = branchPlaces scope branches := by
  match branches with
  | [] => rfl
  | (head, body) :: branches =>
    rw [eraseBranches, branchPlaces, branchPlaces, head.binds_erase, blockPlaces_erase _ body,
      branchPlaces_erase scope branches]

end

lemma blockPlaces_append (cs ds : List Code) : blockPlaces scope (cs ++ ds) =
      blockPlaces scope cs ++ blockPlaces (scope ++ blockBinds cs) ds := by
  induction cs generalizing scope with
  | nil => simp [blockPlaces, blockBinds]
  | cons c cs ih => simp [blockPlaces, blockBinds, ih]

end Code

/-! ## Points of a program -/

/-- A statement of a program, with what is known and which bindings are visible before it. -/
structure Point where
  facts : Facts
  scope : List Binding
  stmt : Stmt

namespace Point

/-- The variables that both the first branch of a choice and another one assign. -/
def shared (p : Point) : List String :=
  match p.stmt with
  | .ifStmt _ thenBody elifs elseBody _ => Emit.sharedVars thenBody elifs elseBody
  | _ => []

def hoisted (p : Point) : List String :=
  match p.stmt with
  | .ifStmt _ thenBody elifs elseBody _ => Emit.hoistable p.facts thenBody elifs elseBody
  | _ => []

/-- The variable that an assignment takes as declared before: it does not declare it, or a variable
of that name was declared in front of a choice. -/
def updated? (p : Point) : Option String :=
  match p.stmt with
  | .assign target _ _ declares _ _ =>
    if !declares || p.facts.hoisted.contains target then some target else none
  | _ => none

def places (p : Point) : List Place :=
  blockPlaces p.scope (p.hoisted.map (.hoist · none)) ++ p.updated?.toList.map (.update · p.scope)

end Point

namespace Outline

mutual

def innerPoints (facts : Facts) (scope : List Binding) : Stmt → List Point
  | .ifStmt condition thenBody elifs elseBody _ =>
    let vars := Emit.hoistable facts thenBody elifs elseBody
    let known := facts.hoist vars
    let visible := scope ++ vars.map (⟨.hoisting, ·⟩)
    let first := block known [] thenBody 0
    blockPoints known (visible ++ (head known condition).binds) [] thenBody 0
      ++ elifPoints first.known visible elifs
      ++ blockPoints (elifBranches first.known elifs).2 visible [] elseBody 0
  | .whileLoop _ body _ => blockPoints facts scope [] body 0
  | .forLoop target _ body _ =>
    blockPoints facts (scope ++ [⟨.loop, facts.bindingName target⟩]) [] body 0
  | .withBlock resource target body _ =>
    blockPoints facts (scope ++ blockBinds (withBindings facts resource target)) [] body 0
  | .tryBlock body [] elseBody finallyBody _ =>
    let inner := block facts [] body 0
    let after := block inner.known [] elseBody 0
    blockPoints facts scope [] body 0 ++ blockPoints inner.known scope [] elseBody 0
      ++ blockPoints after.known (scope ++ blockBinds after.codes) [] finallyBody 0
  | .tryBlock (first :: rest) ((_, bound, handler) :: _) elseBody [] _ =>
    match attempt? facts first with
    | some (_, value, known) =>
      let visible := scope ++ successBinds value
      let success := block known elseBody rest 0
      let after := block success.known [] elseBody success.skip
      blockPoints known visible elseBody rest 0
        ++ blockPoints success.known (visible ++ blockBinds success.codes) [] elseBody success.skip
        ++ blockPoints after.known (scope ++ [⟨.failure, Emit.errorName bound⟩]) [] handler 0
    | none => []
  | _ => []
termination_by structural s => s

/-- The points of a block of which the first `skip` statements are already written. -/
def blockPoints (facts : Facts) (scope : List Binding) (following : List Stmt) :
    List Stmt → Nat → List Point
  | [], _ => []
  | _ :: rest, skip + 1 => blockPoints facts scope following rest skip
  | s :: rest, 0 =>
    match Emit.filling? s (rest ++ following) with
    | some fill =>
      let code := filled facts fill ((rest ++ following).drop fill.elements.length)
      ⟨facts, scope, s⟩
        :: blockPoints code.2 (scope ++ code.1.binds) following rest fill.elements.length
    | none =>
      let first := stmt facts s
      ⟨facts, scope, s⟩ :: innerPoints facts scope s
        ++ blockPoints first.known (scope ++ blockBinds first.codes) following rest 0

def elifPoints (facts : Facts) (scope : List Binding) : List IR.Elif → List Point
  | [] => []
  | (condition, body) :: branches =>
    blockPoints facts (scope ++ (head facts condition).binds) [] body 0
      ++ elifPoints (block facts [] body 0).known scope branches

end

/-! ## The places of a body are those of its points -/

lemma hoisted_noteNativeType : (facts.noteNativeType target value).hoisted = facts.hoisted := by
  unfold Facts.noteNativeType
  repeat (first | rfl | split)

lemma hoisted_noteValue (annot : Option Ty) :
    (facts.noteValue target value annot).hoisted = facts.hoisted := by
  unfold Facts.noteValue
  split
  · exact hoisted_noteNativeType facts target value
  · rfl

lemma places_assign (annot : Option Ty) (declares : Bool) :
    (assign facts target value annot declares).1.places scope =
      if !declares || facts.hoisted.contains target then [.update target scope] else [] := by
  unfold assign
  dsimp only
  rw [hoisted_noteValue]
  cases declares with
  | false => rfl
  | true =>
    rw [Bool.not_true, Bool.false_or, if_pos rfl]
    split <;> rfl

lemma hoisted_fillingFacts (later : List Stmt) :
    (Emit.fillingFacts facts target later).hoisted = facts.hoisted := by
  unfold Emit.fillingFacts
  split <;> rfl

lemma places_filled {facts : Facts} {scope : List Binding} {s : Stmt} {following : List Stmt}
    {fill : Emit.Filling} (hfill : Emit.filling? s following = some fill) (later : List Stmt) :
    (filled facts fill later).1.places scope = (Point.mk facts scope s).places := by
  unfold Emit.filling? at hfill
  split at hfill
  · dsimp only at hfill
    split at hfill
    · cases hfill
    cases hfill
    unfold filled
    dsimp only
    rw [places_assign, hoisted_fillingFacts]
    unfold Point.places Point.hoisted Point.updated?
    dsimp only [map_nil]
    split <;> rfl
  · cases hfill

lemma blockBinds_hoists (vars : List String) :
    blockBinds (vars.map (.hoist · none)) = vars.map (⟨.hoisting, ·⟩) := by
  induction vars with
  | nil => rfl
  | cons v vars ih =>
    rw [map_cons, map_cons, ← ih]
    rfl

lemma places_withBindings (resource : Expr)
    (target : Option String) : blockPlaces scope (withBindings facts resource target) = [] := by
  unfold withBindings
  dsimp only
  split
  · split <;> rfl
  · rfl

mutual

/-- The places of a statement are its own and those of the points inside of it. -/
lemma places_stmt (facts : Facts) (scope : List Binding) (s : Stmt) :
    blockPlaces scope (stmt facts s).codes =
      (Point.mk facts scope s).places ++ (innerPoints facts scope s).flatMap Point.places := by
  -- both walks go through the blocks in the same order, with the same scopes
  match s with
  | .assign target value annot declares _ _ =>
    simp only [stmt, innerPoints, blockPlaces, places_assign, Point.places, Point.hoisted,
      Point.updated?, map_nil, flatMap_nil, append_nil, nil_append]
    split <;> rfl
  | .ifStmt condition thenBody elifs elseBody _ =>
    simp only [stmt, innerPoints, blockPlaces_append, blockPlaces, places,
      branchPlaces, blockBinds_hoists, places_block, places_elifBranches, Point.places,
      Point.hoisted, Point.updated?, flatMap_append, Option.toList_none, map_nil,
      append_nil, append_assoc]
  | .whileLoop _ body _ | .forLoop _ _ body _ =>
    simp only [stmt, innerPoints, blockPlaces, places, places_block, append_nil]
    rfl
  | .withBlock resource target body _ =>
    simp only [stmt, innerPoints, blockPlaces, places, blockPlaces_append,
      places_withBindings, places_block, append_nil]
    rfl
  | .tryBlock body [] elseBody [] _ =>
    simp only [stmt, innerPoints, blockPlaces, places,
      places_block, isEmpty_nil, if_true, blockPoints, append_nil, flatMap_append,
      binds]
    rfl
  | .tryBlock body [] elseBody (final :: finallyBody) _ =>
    simp only [stmt, innerPoints, blockPlaces, blockPlaces_append, places,
      places_block, isEmpty_cons, Bool.false_eq_true, if_false, append_nil,
      flatMap_append, binds, cons_append, nil_append, append_assoc]
    rfl
  | .tryBlock (first :: rest) ((_, bound, handler) :: _) elseBody [] _ =>
    cases hattempt : attempt? facts first with
    | some found =>
      obtain ⟨call, value, known⟩ := found
      simp only [stmt, innerPoints, hattempt, blockPlaces, places,
        blockPlaces_append, places_block, append_nil, flatMap_append,
        append_assoc]
      rfl
    | none =>
      simp only [stmt, innerPoints, hattempt]
      rfl
  | .tryBlock [] (_ :: _) _ _ _ | .tryBlock (_ :: _) (_ :: _) _ (_ :: _) _ => rfl
  | .tupleUnpack .. | .attrAssign .. | .subscriptAssign .. | .ret .. | .breakLoop _
  | .continueLoop _ | .pass _ | .other .. | .expr .. | .raise .. => rfl

lemma places_block (facts : Facts) (scope : List Binding) (following body : List Stmt)
    (skip : Nat) : blockPlaces scope (block facts following body skip).codes =
      (blockPoints facts scope following body skip).flatMap Point.places := by
  match body, skip with
  | [], _ => rfl
  | _ :: rest, skip + 1 =>
    rw [block, blockPoints]
    exact places_block facts scope following rest skip
  | s :: rest, 0 =>
    cases hfill : Emit.filling? s (rest ++ following) with
    | some fill =>
      simp only [block, blockPoints, hfill, blockPlaces, places_filled hfill, places_block,
        flatMap_cons]
    | none =>
      simp only [block, blockPoints, hfill, blockPlaces_append, places_stmt, places_block,
        flatMap_cons, flatMap_append, cons_append, append_assoc]

lemma places_elifBranches (facts : Facts) (scope : List Binding)
    (elifs : List IR.Elif) : branchPlaces scope (elifBranches facts elifs).1 =
      (elifPoints facts scope elifs).flatMap Point.places := by
  match elifs with
  | [] => rfl
  | (condition, body) :: branches =>
    simp only [elifBranches, elifPoints, branchPlaces, places_block, places_elifBranches,
      flatMap_append]

end

end Outline

end Oxidize
