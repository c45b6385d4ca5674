import Mathlib
import Oxidize.Proofs.Reading.Variables

/-!
# Lists that are filled at once

The declaration of an empty list and the pushes after it are written as one declaration of the list
with its elements, which are then evaluated before the list exists (`filling_preserves_iff`).
-/

namespace Oxidize

open IR (Expr Stmt)
open Emit List

/-- The statement that is written for a list that is filled at once. -/
def Emit.Filling.stmt (fill : Filling) : Stmt :=
  .assign fill.target (.list fill.elements fill.line) fill.annot true false fill.line

/-! ## Execution -/

/-- A meaning of expressions and lists. The evaluation of an expression may change the state, but it
neither reads nor changes a variable whose name it does not hold. -/
structure Semantics where
  Value : Type
  State : Type
  get : State → String → Value
  set : State → String → Value → State
  eval : Expr → State → Value × State
  list : List Value → Value
  push : Value → Value → Value
  /-- The statements that are neither assignments nor pushes. -/
  step : Stmt → State → State
  get_set : ∀ s x v, get (set s x v) x = v
  set_set : ∀ s x v w, set (set s x v) x w = set s x w
  push_list : ∀ vs v, push (list vs) v = list (vs ++ [v])
  eval_set : ∀ {e : Expr} {x : String}, x ∉ e.names → ∀ s v,
    eval e (set s x v) = ((eval e s).1, set (eval e s).2 x v)

namespace Semantics

variable (S : Semantics)

def evalAll : List Expr → S.State → List S.Value × S.State
  | [], s => ([], s)
  | e :: es, s =>
    let first := S.eval e s
    let others := evalAll es first.2
    (first.1 :: others.1, others.2)

def value (e : Expr) (s : S.State) : S.Value × S.State :=
  match e with
  | .list elements _ => (S.list (S.evalAll elements s).1, (S.evalAll elements s).2)
  | e => if isEmptyList e then (S.list [], s) else S.eval e s

def pushTo (x : String) (s : S.State) (e : Expr) : S.State :=
  let result := S.eval e s
  S.set result.2 x (S.push (S.get result.2 x) result.1)

def exec (s : S.State) : Stmt → S.State
  | .assign x e _ _ _ _ => S.set (S.value e s).2 x (S.value e s).1
  | .expr (.method (.name x line) method [arg] [] line') line'' =>
    if method == "append" || method == "push" then S.pushTo x s arg
    else S.step (.expr (.method (.name x line) method [arg] [] line') line'') s
  | other => S.step other s

variable {S} {s : S.State} {x : String}

lemma exec_of_pushed {stmt : Stmt} {e : Expr} (h : pushed? x stmt = some e) :
    S.exec s stmt = S.pushTo x s e := by
  unfold pushed? at h
  split at h
  · split at h
    · rename_i hpush
      cases h
      rw [Bool.and_eq_true, beq_iff_eq] at hpush
      rw [exec, if_pos hpush.2, hpush.1]
    · cases h
  · cases h

lemma run_pushes (following : List Stmt) :
    (following.take (pushedValues x following).length).foldl S.exec s =
      (pushedValues x following).foldl (S.pushTo x) s := by
  induction following generalizing s with
  | nil => rfl
  | cons stmt rest ih =>
    rw [pushedValues]
    split
    · rename_i e hpushed
      rw [length_cons, take_succ_cons, foldl_cons, exec_of_pushed hpushed, ih, foldl_cons]
    · rfl

lemma value_of_isEmptyList {e : Expr} (h : isEmptyList e = true) :
    S.value e s = (S.list [], s) := by
  unfold value
  split
  · rename_i elements _
    obtain rfl : elements = [] := isEmpty_iff.1 h
    rfl
  · rw [if_pos h]

/-- The statements of a filling set the list to the empty one and push the elements. -/
lemma run_filling {stmt : Stmt} {following : List Stmt} {fill : Filling}
    (h : filling? stmt following = some fill) :
    (stmt :: following.take fill.elements.length).foldl S.exec s =
      fill.elements.foldl (S.pushTo fill.target) (S.set s fill.target (S.list [])) := by
  unfold filling? at h
  split at h
  · dsimp only at h
    split at h
    · cases h
    · rename_i hempty
      cases h
      rw [Bool.or_eq_true, not_or, Bool.not_eq_true, Bool.not_eq_false'] at hempty
      rw [foldl_cons, exec, value_of_isEmptyList hempty.1, run_pushes]
  · cases h

/-- Elements that do not hold the name of the list are evaluated as if it did not exist. -/
lemma pushes_eq {es : List Expr} (h : ∀ e ∈ es, x ∉ e.names) (vs : List S.Value) :
    es.foldl (S.pushTo x) (S.set s x (S.list vs)) =
      S.set (S.evalAll es s).2 x (S.list (vs ++ (S.evalAll es s).1)) := by
  induction es generalizing s vs with
  | nil => rw [evalAll, append_nil, foldl_nil]
  | cons e es ih =>
    obtain ⟨he, hes⟩ := forall_mem_cons.1 h
    have hpush : S.pushTo x (S.set s x (S.list vs)) e =
        S.set (S.eval e s).2 x (S.list (vs ++ [(S.eval e s).1])) := by
      rw [pushTo, S.eval_set he, S.get_set, S.set_set, S.push_list]
    rw [foldl_cons, hpush, ih hes, evalAll, append_assoc]
    rfl

/-- Expressions count the names that they hold, with the values of these, and lists are the sums of
their elements and their length. -/
abbrev counting : Semantics where
  Value := Nat
  State := String → Nat
  get s x := s x
  set s x v := fun y => if y = x then v else s y
  eval e s := ((e.names.map s).sum, s)
  list vs := vs.sum + vs.length
  push n v := n + v + 1
  step _ s := s
  get_set s x v := if_pos rfl
  set_set s x v w := by
    funext y
    by_cases hy : y = x <;> simp [hy]
  push_list vs v := by
    simp only [List.sum_append, List.sum_singleton, List.length_append, List.length_singleton]
    omega
  eval_set := by
    intro e x hx s v
    refine Prod.ext (congrArg List.sum (List.map_congr_left fun y hy => ?_)) rfl
    exact if_neg fun (heq : y = x) => hx (heq ▸ hy)

lemma evalAll_counting (es : List Expr) (s : String → Nat) :
    counting.evalAll es s = (es.map fun e => (e.names.map s).sum, s) := by
  induction es with
  | nil => rfl
  | cons e es ih =>
    show (_ :: (counting.evalAll es s).1, (counting.evalAll es s).2) = _
    rw [ih]
    rfl

lemma exec_counting (fill : Filling) (s : String → Nat) : counting.exec s fill.stmt fill.target =
      (fill.elements.map fun e => (e.names.map s).sum).sum + fill.elements.length := by
  refine (if_pos rfl).trans ?_
  show List.sum (counting.evalAll fill.elements s).1 + List.length _ = _
  rw [evalAll_counting, length_map]

end Semantics

open Semantics (counting)

/-- The statements that fill a list and the statement that is written for them end in the same
state, whatever expressions mean, if and only if no pushed expression holds the name of the list. -/
theorem filling_preserves_iff {stmt : Stmt} {following : List Stmt} {fill : Filling}
    (h : filling? stmt following = some fill) :
    (∀ (S : Semantics) (s : S.State),
      (stmt :: following.take fill.elements.length).foldl S.exec s = S.exec s fill.stmt) ↔
        ∀ e ∈ fill.elements, fill.target ∉ e.names := by
  constructor
  · intro hsame e he hmem
    let zero : String → Nat := fun _ => 0
    let one := counting.set zero fill.target 1
    have hzero := Semantics.run_filling (S := counting) (s := zero) h
    have hone := Semantics.run_filling (S := counting) (s := one) h
    rw [counting.set_set, ← hzero, hsame, hsame] at hone
    have hsums := congrFun hone fill.target
    rw [Semantics.exec_counting, Semantics.exec_counting] at hsums
    have hnone : (fill.elements.map fun e => (e.names.map zero).sum).sum = 0 := by simp [zero]
    have hcounts : (fill.elements.map fun e => (e.names.map one).sum).sum = 0 := by omega
    have hcount := List.sum_eq_zero_iff_forall_eq_nat.1 hcounts _ (List.mem_map_of_mem he)
    have hself := List.sum_eq_zero_iff_forall_eq_nat.1 hcount _ (List.mem_map_of_mem hmem)
    rw [show one fill.target = 1 from if_pos rfl] at hself
    cases hself
  · intro hnames S s
    rw [Semantics.run_filling h, Semantics.pushes_eq hnames]
    rfl

/-- The declaration of a list `v`. -/
def declareList (elements : List Expr) : Stmt :=
  .assign "v" (.list elements none) (some (.generic "list" [.prim .int])) true false none

def pushOf (e : Expr) : Stmt :=
  .expr (.method (.name "v" none) "append" [e] [] none) none

def oneLiteral : Expr :=
  .literal (.int 1) none

def lengthCall : Expr :=
  .call (.name "len" none) [.name "v" none] [] none

theorem filling_preserves_iff_oneLiteral :
    [declareList [], pushOf oneLiteral].foldl counting.exec (fun _ => 0) =
      counting.exec (fun _ => 0) (declareList [oneLiteral]) :=
  have h : filling? (declareList []) [pushOf oneLiteral] = some _ := rfl
  (filling_preserves_iff h).2 (by decide) counting _

/-- The length is written where the list does not exist yet. -/
theorem filling_differs_lengthCall :
    let pushes := [pushOf oneLiteral, pushOf lengthCall]
    ((({} : Emitter).run (Emit.filledList? (declareList []) pushes)).1.toOption.map
        (Option.map fun code => code.1.lines 0)) =
        some (some ["let v: Vec<i64> = vec![1, v.len() as i64];"]) ∧
      (declareList [] :: pushes).foldl counting.exec (fun _ => 0) "v" = 3 ∧
      counting.exec (fun _ => 0) (declareList [oneLiteral, lengthCall]) "v" = 2 := by
  decide +kernel

end Oxidize
