import Oxidize.Proofs.Flow.Basic
import Oxidize.Proofs.Scope.Visibility

/-!
# Assignments that later reads see

A program has one variable for each name in a function, and a read sees the value that was written
last under the name. In written code a name stands for the binding that is visible where it is used,
and the value of a fallible call is bound in one arm of a match, whatever was bound before. The
written body of a function is read as a flow of reads and writes with the bindings that they stand
for, and for every binding it is shown exactly when all reads see what was written to it
(`writes_seen_iff`).
-/

namespace Oxidize

open IR (Expr Stmt Ty Param)
open Code

/-! ## Names that an expression refers to -/

namespace IR

mutual

/-- The names that an expression refers to. The variable of a comprehension is its own. -/
def Expr.free : Expr → List String
  | .absent | .literal .. | .other .. => []
  | .name n _ => [n]
  | .binary _ left right _ | .subscript left right _ => left.free ++ right.free
  | .unary _ e _ | .attr e _ _ | .formatted e _ _ | .await e _ => e.free
  | .call e args kwargs _ | .method e _ args kwargs _ => e.free ++ freeAll args ++ freeNamed kwargs
  | .slice a b c _ | .ifExp a b c _ => a.free ++ b.free ++ c.free
  | .list es _ | .set es _ | .tuple es _ | .fstring es _ => freeAll es
  | .dict entries _ => freeEntries entries
  | .listComp element target source conditions _ =>
    source.free ++ (element.free ++ freeAll conditions).filter (· != target)

def freeAll : List Expr → List String
  | [] => []
  | e :: es => e.free ++ freeAll es

def freeNamed : Table Expr → List String
  | [] => []
  | (_, e) :: rest => e.free ++ freeNamed rest

def freeEntries : List (Expr × Expr) → List String
  | [] => []
  | (k, v) :: rest => k.free ++ v.free ++ freeEntries rest

end

end IR

/-! ## Reads and writes of written code -/

/-- A read or a write of a name. The binding that the name stands for is given by the way to it from
the root of the code, the last step first; there is none if the name is bound outside of the
body. -/
inductive Access where
  | read (name : String) (binding : Option (List Nat))
  | write (name : String) (binding : Option (List Nat))
  deriving DecidableEq

/-- The names that are bound in the body, the last one first, with their bindings. -/
abbrev Bindings := List (String × List Nat)

def Head.free : Head → List String
  | .test condition => condition.source.free
  | .pattern _ vars => vars

namespace Flow

def reads (scope : Bindings) : List String → Flow Access
  | [] => .skip
  | x :: xs => .seq (.event (.read x (scope.lookup x))) (reads scope xs)

def writes (pos : List Nat) : List Binding → Flow Access
  | [] => .skip
  | b :: bs => .seq (.event (.write b.name (some pos))) (writes pos bs)

def binding (scope : Bindings) (pos : List Nat) (bs : List Binding) : Bindings :=
  bs.map (fun b => (b.name, pos)) ++ scope

mutual

/-- The reads and writes of a statement at `pos` before which `scope` is visible. -/
def accesses (scope : Bindings) (pos : List Nat) : Code → Flow Access
  | .line parts _ => reads scope (IR.freeAll (parts.map Written.source))
  | .hoist .. => .skip
  | .declare binder source? isMut name type value =>
    .seq (reads scope (IR.freeAll (value.toList.map Written.source)))
      (writes pos (declare binder source? isMut name type value).binds)
  | .unpack targets types value =>
    .seq (reads scope value.source.free) (writes pos (unpack targets types value).binds)
  | .assign name sign value =>
    -- a combined operator reads its target
    .seq (reads scope ((if sign == "=" then [] else [name]) ++ value.source.free))
      (.event (.write name (scope.lookup name)))
  | .leave parts _ => .seq (reads scope (IR.freeAll (parts.map Written.source))) (.jump .left)
  | .breakLoop => .jump .broke
  | .continueLoop => .jump .again
  | .choice branches otherwise =>
    branchAccesses scope (0 :: pos) (blockAccesses scope (1 :: pos) otherwise) branches
  | .whileLoop condition body =>
    .loop (reads scope condition.source.free) (blockAccesses scope pos body)
  | .forLoop _ name items body =>
    .seq (reads scope items.source.free) (.loop .skip (.seq (writes (0 :: pos) [⟨.loop, name⟩])
        (blockAccesses (binding scope (0 :: pos) [⟨.loop, name⟩]) (1 :: pos) body)))
  | .scope body _ => blockAccesses scope pos body
  | .attempt call value okBody error errBody =>
    let success := successBinds value
    .seq (reads scope call.source.free) (.alt (.seq (writes (0 :: pos) success)
          (blockAccesses (binding scope (0 :: pos) success) (1 :: pos) okBody))
        (.seq (writes (2 :: pos) [⟨.failure, error⟩])
          (blockAccesses (binding scope (2 :: pos) [⟨.failure, error⟩]) (3 :: pos) errBody)))

def blockAccesses (scope : Bindings) (pos : List Nat) : List Code → Flow Access
  | [] => .skip
  | c :: cs =>
    .seq (accesses scope (0 :: pos) c)
      (blockAccesses (binding scope (0 :: pos) c.binds) (1 :: pos) cs)

/-- The reads and writes of the branches of a choice, of which at most one is taken. -/
def branchAccesses (scope : Bindings) (pos : List Nat) (otherwise : Flow Access) :
    List Branch → Flow Access
  | [] => otherwise
  | (head, body) :: branches =>
    .seq (reads scope head.free) (.alt (.seq (writes (0 :: pos) head.binds)
          (blockAccesses (binding scope (0 :: pos) head.binds) (1 :: pos) body))
        (branchAccesses scope (2 :: pos) otherwise branches))

end

lemma map_source_erase (ws : List Written) :
    (ws.map Written.erase).map Written.source = ws.map Written.source := by
  rw [List.map_map]
  rfl

mutual

lemma accesses_erase (scope : Bindings) (pos : List Nat) (c : Code) :
    accesses scope pos c.erase = accesses scope pos c := by
  match c with
  | .line parts _ | .leave parts _ => rw [erase, accesses, accesses, map_source_erase]
  | .declare _ _ _ _ _ value => cases value <;> rfl
  | .unpack targets types value =>
    have hbinds := binds_erase (.unpack targets types value)
    rw [erase] at hbinds ⊢
    rw [accesses, accesses, hbinds]
    rfl
  | .choice branches otherwise =>
    rw [erase, accesses, accesses, blockAccesses_erase _ _ otherwise,
      branchAccesses_erase _ _ _ branches]
  | .whileLoop _ body | .forLoop _ _ _ body =>
    rw [erase, accesses, accesses, blockAccesses_erase _ _ body]
    rfl
  | .scope body _ => rw [erase, accesses, accesses, blockAccesses_erase _ _ body]
  | .attempt _ value okBody error errBody =>
    rw [erase, accesses, accesses, successBinds_erase, blockAccesses_erase _ _ okBody,
      blockAccesses_erase _ _ errBody]
    rfl
  | .hoist .. | .assign .. | .breakLoop | .continueLoop => rfl

lemma blockAccesses_erase (scope : Bindings) (pos : List Nat) (cs : List Code) :
    blockAccesses scope pos (eraseBlock cs) = blockAccesses scope pos cs := by
  match cs with
  | [] => rfl
  | c :: cs =>
    rw [eraseBlock, blockAccesses, blockAccesses, accesses_erase _ _ c, binds_erase,
      blockAccesses_erase _ _ cs]

lemma branchAccesses_erase (scope : Bindings) (pos : List Nat) (otherwise : Flow Access)
    (branches : List Branch) :
    branchAccesses scope pos otherwise (eraseBranches branches) =
      branchAccesses scope pos otherwise branches := by
  match branches with
  | [] => rfl
  | (head, body) :: branches =>
    rw [eraseBranches, branchAccesses, branchAccesses, blockAccesses_erase _ _ body,
      branchAccesses_erase _ _ _ branches, head.binds_erase]
    cases head <;> rfl

end

end Flow

/-! ## The last write along a path -/

namespace Access

def written? (x : String) : Access → Option (Option (List Nat))
  | .write name binding => if name = x then some binding else none
  | .read _ _ => none

def misses (x : String) (pos : List Nat) : Access → Bool
  | .read name binding => name == x && binding != some pos
  | .write _ _ => false

/-- The bit is off while what was last written under the name `x` was written to the binding at
`pos`. -/
def keepOff (x : String) (pos : List Nat) (other : Bool) (a : Access) : Bool :=
  match a.written? x with
  | some binding => binding != some pos
  | none => other

end Access

/-- The binding to which the name `x` was written last along a path, if it was written. -/
def lastWrite (x : String) (path : List Access) : Option (Option (List Nat)) :=
  path.foldl (fun last a => (a.written? x).or last) none

section LastWrite

variable {x : String} {pos : List Nat}

lemma foldl_keepOff (path : List Access) (last : Option (Option (List Nat))) :
    path.foldl (Access.keepOff x pos) (last != some (some pos)) =
      (path.foldl (fun last a => (a.written? x).or last) last != some (some pos)) := by
  induction path generalizing last with
  | nil => rfl
  | cons a path ih =>
    rw [List.foldl_cons, List.foldl_cons, ← ih]
    congr 1
    unfold Access.keepOff
    cases a.written? x <;> rfl

/-- Keeping one bit along a path tells whether the name was last written to the binding. -/
lemma exposed_misses_iff {path : List Access} :
    Flow.Exposed (Access.keepOff x pos) (Access.misses x pos) true path ↔
      ∃ before binding after, path = before ++ .read x binding :: after ∧
        lastWrite x before = some (some pos) ∧ binding ≠ some pos := by
  have hbit (before : List Access) :
      before.foldl (Access.keepOff x pos) true = false ↔ lastWrite x before = some (some pos) := by
    have hfold : before.foldl (Access.keepOff x pos) (none != some (some pos)) = _ :=
      foldl_keepOff before none
    rw [show (none != some (some pos)) = true from rfl] at hfold
    rw [hfold, lastWrite]
    exact bne_eq_false_iff_eq
  constructor
  · rintro ⟨before, a, after, heq, hmisses, hoff⟩
    cases a with
    | read name binding =>
      simp only [Access.misses, Bool.and_eq_true, beq_iff_eq, bne_iff_ne] at hmisses
      obtain ⟨rfl, hne⟩ := hmisses
      exact ⟨before, binding, after, heq, (hbit before).1 hoff, hne⟩
    | write => cases hmisses
  · rintro ⟨before, binding, after, heq, hlast, hne⟩
    refine ⟨before, _, after, heq, ?_, (hbit before).2 hlast⟩
    simpa [Access.misses] using hne

end LastWrite

/-! ## The body of a function -/

/-- In the written body of a function, a read of a name that was last written to a binding stands
for this binding on every path, exactly if the outline of the body has no read of the name for which
another binding is visible while the last write went to this one. -/
theorem writes_seen_iff (x : String) (pos : List Nat) (params : List Param) (result : Option Ty)
    (inResult : Bool) (body : List Stmt) (e : Emitter) (codes : List Code)
    (h : (e.run (Emit.functionBody params result inResult body)).1 = .ok codes) :
    (∀ path o, Flow.Runs (Flow.blockAccesses [] [] codes) path o →
        ∀ before binding after, path = before ++ .read x binding :: after →
          lastWrite x before = some (some pos) → binding = some pos) ↔
      ¬ (Flow.blockAccesses [] []
          (Outline.block (e.ctx.toFacts.enter params body) [] body 0).codes).Hits
        (Access.keepOff x pos) (Access.misses x pos) true := by
  rw [← Emit.functionBody_outline h, Flow.blockAccesses_erase, Flow.hits_iff]
  simp only [exposed_misses_iff, not_exists, not_and, ne_eq, Classical.not_not]

def fallibleFunction : IR.Function where
  name := "g"
  result := some (.generic "Result" [.prim .int, .prim .str])
  body := [.ret (.call (.name "Ok" none) [.literal (.int 3) none] [] none) none]

/-- A function that tries to give its parameter another value, prints it and then leaves with
`value`. -/
def retryingFunction (value : Expr) : IR.Function where
  name := "f"
  params := [{ name := "x", type := .prim .int }]
  result := some (.prim .int)
  body :=
    [.tryBlock [.assign "x" (.call (.name "g" none) [] [] none) none false false none,
        .expr (.call (.name "print" none) [.name "x" none] [] none) none]
       [(some "Exception", some "e",
          [.expr (.call (.name "print" none) [.name "e" none] [] none) none])] [] [] none,
     .ret value none]

def fallibleContext : Emitter :=
  { ctx := { resultFunctions := ["g"] } }

theorem writes_seen_retryingFunction :
    ∃ codes, (fallibleContext.run (Emit.functionBody (retryingFunction .absent).params
        (retryingFunction .absent).result false (retryingFunction .absent).body)).1 = .ok codes ∧
      ∀ path o, Flow.Runs (Flow.blockAccesses [] [] codes) path o →
        ∀ before binding after, path = before ++ .read "x" binding :: after →
          lastWrite "x" before = some (some [0, 0]) → binding = some [0, 0] := by
  obtain ⟨codes, hcodes⟩ := Emitter.exists_ok_of_isSome
    (e := fallibleContext) (x := Emit.functionBody (retryingFunction .absent).params
      (retryingFunction .absent).result false (retryingFunction .absent).body) (by decide)
  have hseen := (writes_seen_iff "x" [0, 0] _ _ _ _ _ _ hcodes).2 (by decide)
  exact ⟨codes, hcodes, hseen⟩

/-- After the match the parameter has its old value: the arm has bound a second variable. -/
theorem writes_unseen_retryingFunction :
    (transpile {} { name := "retrying", functions :=
        [fallibleFunction, retryingFunction (.name "x" none)] }).1.toOption =
        some ("pub fn g() -> Result<i64, String> \x7b\n    Ok(3)\n\x7d\n\n" ++
          "pub fn f(mut x: i64) -> i64 \x7b\n    match g() \x7b\n        Ok(x) => \x7b\n" ++
          "            println!(\"\x7b\x7d\", x);\n        \x7d\n        Err(e) => \x7b\n" ++
          "            println!(\"\x7b\x7d\", e);\n        \x7d\n    \x7d\n    x\n\x7d\n") ∧
      ∃ codes path o before binding after,
        (fallibleContext.run (Emit.functionBody (retryingFunction (.name "x" none)).params
          (retryingFunction (.name "x" none)).result false
          (retryingFunction (.name "x" none)).body)).1 = .ok codes ∧
        Flow.Runs (Flow.blockAccesses [] [] codes) path o ∧
        path = before ++ .read "x" binding :: after ∧
        lastWrite "x" before = some (some [0, 0]) ∧ binding ≠ some [0, 0] := by
  refine ⟨by decide +kernel, ?_⟩
  obtain ⟨codes, hcodes⟩ := Emitter.exists_ok_of_isSome
    (e := fallibleContext) (x := Emit.functionBody (retryingFunction (.name "x" none)).params
      (retryingFunction (.name "x" none)).result false
      (retryingFunction (.name "x" none)).body) (by decide)
  have hhits : (Flow.blockAccesses [] [] codes).Hits (Access.keepOff "x" [0, 0])
      (Access.misses "x" [0, 0]) true := by
    rw [← Flow.blockAccesses_erase, Emit.functionBody_outline hcodes]
    decide
  obtain ⟨path, o, hrun, hexposed⟩ := Flow.hits_iff.1 hhits
  obtain ⟨before, binding, after, heq, hlast, hmissed⟩ := exposed_misses_iff.1 hexposed
  exact ⟨codes, path, o, before, binding, after, hcodes, hrun, heq, hlast, hmissed⟩

end Oxidize
