import Oxidize.Proofs.Body.Simulation
import Oxidize.Proofs.Flow.Basic
import Oxidize.Transpile

/-!
# Variables that are taken out of their options

Once a check for nothing has left the function, the variable is taken as something in all that is
written after it. Whether that is right depends on the paths that lead there: each of them has to
leave a check for nothing on its false side, and must not give the variable another value after it.
The written body of a function is read as a flow of events, and it is shown exactly when this holds
for every reference to a variable (`taken_guarded_iff`). The variables that a check is about are
read off its condition (`readsChecks_of_condition`).
-/

namespace Oxidize

/-! ## Conditions that check for nothing -/

namespace IR

/-- The truth of a condition in an environment where variables may hold nothing. The truth of what
is no check and no connective is given by `other`. -/
def Expr.holds {α : Type} (env : String → Option α) (other : Expr → Bool) : Expr → Bool
  | .binary .is (.name x _) (.literal .none _) _ => (env x).isNone
  | .binary .isNot (.name x _) (.literal .none _) _ => (env x).isSome
  | .binary .and left right _ => left.holds env other && right.holds env other
  | .binary .or left right _ => left.holds env other || right.holds env other
  | e => other e

/-- The condition joins checks of names, and these are the names from left to right. -/
inductive Expr.Checks (join check : BinOp) : Expr → List String → Prop
  | atom (x : String) (line line' line'' : Line) :
    Checks join check (.binary check (.name x line) (.literal .none line') line'') [x]
  | joined {left right : Expr} {xs ys : List String} (line : Line)
      (hleft : Checks join check left xs) (hright : Checks join check right ys) :
    Checks join check (.binary join left right line) (xs ++ ys)

/-- The names are those of the checks of the condition, and there are none if it is no such
condition. If it is one, it has this outcome exactly where none of the variables is nothing. -/
structure ReadsChecks (join check : BinOp) (outcome : Bool) (c : Expr) (names : List String) :
    Prop where
  ne_nil_iff : names ≠ [] ↔ ∃ xs, c.Checks join check xs
  eq_of_checks : ∀ xs, c.Checks join check xs → names = xs
  outcome_iff : names ≠ [] → ∀ (α : Type) (env : String → Option α) (other : Expr → Bool),
    c.holds env other = outcome ↔ ∀ x ∈ names, env x ≠ none

variable {join check : BinOp} {c : Expr} {xs : List String}

lemma Expr.Checks.ne_nil (h : c.Checks join check xs) : xs ≠ [] := by
  induction h with
  | atom => simp
  | joined _ _ _ ihleft _ => simp [ihleft]

lemma readsChecks_getD {outcome : Bool} {names? : Option (List String)}
    (hnames : ∀ xs, names? = some xs ↔ c.Checks join check xs)
    (houtcome : ∀ xs, c.Checks join check xs → ∀ (α : Type) (env : String → Option α) other,
      c.holds env other = outcome ↔ ∀ x ∈ xs, env x ≠ none) :
    ReadsChecks join check outcome c (names?.getD []) := by
  cases names? with
  | none =>
    have hnone (xs : List String) : ¬ c.Checks join check xs := fun h => by cases (hnames xs).2 h
    exact ⟨by simp [hnone], fun xs h => absurd h (hnone xs), fun h => absurd rfl h⟩
  | some ys =>
    have hchecks := (hnames ys).1 rfl
    refine ⟨⟨fun _ => ⟨ys, hchecks⟩, fun _ => hchecks.ne_nil⟩, fun xs h => ?_, fun _ => ?_⟩
    · exact Option.some.inj ((hnames xs).2 h)
    · exact houtcome ys hchecks

lemma checkedVars?_eq_some_iff (hne : check ≠ join) :
    c.checkedVars? join check = some xs ↔ c.Checks join check xs := by
  constructor
  · intro h
    fun_induction Expr.checkedVars? join check c generalizing xs with
    | case1 left right line ihleft ihright =>
      obtain ⟨ys, hleft, h⟩ := Option.bind_eq_some_iff.1 h
      obtain ⟨zs, hright, h⟩ := Option.bind_eq_some_iff.1 h
      cases h
      exact .joined line (ihleft hleft) (ihright hright)
    | case2 left right line hne =>
      obtain ⟨x, hx, rfl⟩ := Option.map_eq_some_iff.1 h
      unfold Expr.comparedVar? at hx
      split at hx <;> cases hx
      exact .atom x _ _ line
    | _ => cases h
  · intro h
    induction h with
    | atom => simp [Expr.checkedVars?, Expr.comparedVar?, hne]
    | joined line _ _ ihleft ihright => simp [Expr.checkedVars?, ihleft, ihright]

lemma somethingVars?_eq_some_iff : c.somethingVars? = some xs ↔ c.Checks .and .isNot xs :=
  checkedVars?_eq_some_iff (by decide)

lemma nothingVars?_eq_some_iff : c.nothingVars? = some xs ↔ c.Checks .or .is xs :=
  checkedVars?_eq_some_iff (by decide)

/-- Names are found in exactly the conjunctions of checks that a variable is something, and such a
condition is true where none of the variables is nothing. They are found in exactly the disjunctions
of checks that one is nothing, and such a condition is false where none of them is. -/
theorem readsChecks_of_condition (c : Expr) :
    ReadsChecks .and .isNot true c c.somethingVars ∧ ReadsChecks .or .is false c c.nothingVars := by
  constructor
  · refine readsChecks_getD (fun _ => somethingVars?_eq_some_iff) fun xs h α env other => ?_
    induction h with
    | atom => simp [Expr.holds, Option.isSome_iff_ne_none]
    | joined line _ _ ihleft ihright => simp [Expr.holds, ihleft, ihright, or_imp, forall_and]
  · refine readsChecks_getD (fun _ => nothingVars?_eq_some_iff) fun xs h α env other => ?_
    induction h with
    | atom => simp [Expr.holds, Option.isSome_iff_ne_none]
    | joined line _ _ ihleft ihright => simp [Expr.holds, ihleft, ihright, or_imp, forall_and]

end IR

open IR (Expr Stmt Ty Param)

structure Reference where
  name : String
  /-- Was the variable taken as something where the reference was written? -/
  taken : Bool
  /-- The way from the root of the code to the reference, the last step first. -/
  position : List Nat
  deriving DecidableEq

inductive Event where
  | read (r : Reference)
  /-- A choice is left on the side where its condition does not hold. -/
  | passed (condition : Expr)
  | bound (b : Binding)
  | assigned (name : String)

namespace Flow

/-! ## The flow of written code -/

mutual

/-- The flow of an expression that is written where the variables `taken` are taken as something. -/
def ofExpr (taken : NameSet) (pos : List Nat) : Expr → Flow Event
  | .absent | .literal .. | .other .. => .skip
  | .name n _ => .event (.read ⟨n, taken.contains n, pos⟩)
  | .binary op left right _ =>
    let second := ofExpr taken (1 :: pos) right
    .seq (ofExpr taken (0 :: pos) left)
      (if op == .and || op == .or then .alt .skip second else second)
  | .unary _ e _ | .attr e _ _ | .formatted e _ _ | .await e _ => ofExpr taken (0 :: pos) e
  | .call e args kwargs _ | .method e _ args kwargs _ =>
    .seq (ofExpr taken (0 :: pos) e)
      (.seq (ofExprs taken (1 :: pos) args) (ofNamed taken (2 :: pos) kwargs))
  | .subscript obj index _ => .seq (ofExpr taken (0 :: pos) obj) (ofExpr taken (1 :: pos) index)
  | .slice lower upper step _ =>
    .seq (ofExpr taken (0 :: pos) lower)
      (.seq (ofExpr taken (1 :: pos) upper) (ofExpr taken (2 :: pos) step))
  | .list elements _ | .set elements _ | .tuple elements _ | .fstring elements _ =>
    ofExprs taken (0 :: pos) elements
  | .dict entries _ => ofPairs taken (0 :: pos) entries
  | .ifExp condition yes no _ =>
    .seq (ofExpr taken (0 :: pos) condition)
      (.alt (ofExpr taken (1 :: pos) yes) (ofExpr taken (2 :: pos) no))
  | .listComp element target source conditions _ =>
    .seq (ofExpr taken (0 :: pos) source)
      (.loop .skip (.seq (.event (.bound ⟨.comprehension, target⟩))
        (ofConditions taken (1 :: pos) (ofExpr taken (2 :: pos) element) conditions)))
termination_by structural e => e

def ofExprs (taken : NameSet) (pos : List Nat) : List Expr → Flow Event
  | [] => .skip
  | e :: es => .seq (ofExpr taken (0 :: pos) e) (ofExprs taken (1 :: pos) es)

def ofPairs (taken : NameSet) (pos : List Nat) : List (Expr × Expr) → Flow Event
  | [] => .skip
  | (key, value) :: entries =>
    .seq (ofExpr taken (0 :: pos) key)
      (.seq (ofExpr taken (1 :: pos) value) (ofPairs taken (2 :: pos) entries))

def ofNamed (taken : NameSet) (pos : List Nat) : Table Expr → Flow Event
  | [] => .skip
  | (_, value) :: others =>
    .seq (ofExpr taken (0 :: pos) value) (ofNamed taken (1 :: pos) others)

/-- The flow of the conditions of a comprehension, and of its element if they hold. -/
def ofConditions (taken : NameSet) (pos : List Nat) (element : Flow Event) : List Expr → Flow Event
  | [] => element
  | condition :: conditions =>
    .seq (ofExpr taken (0 :: pos) condition)
      (.alt .skip (ofConditions taken (1 :: pos) element conditions))

end

def ofWritten (pos : List Nat) (w : Written) : Flow Event :=
  ofExpr w.narrowed pos w.source

def ofParts (pos : List Nat) : List Written → Flow Event
  | [] => .skip
  | w :: ws => .seq (ofWritten (0 :: pos) w) (ofParts (1 :: pos) ws)

def ofBinds : List Binding → Flow Event
  | [] => .skip
  | b :: bs => .seq (.event (.bound b)) (ofBinds bs)

def ofHead (pos : List Nat) : Head → Flow Event
  | .test condition => ofWritten pos condition
  | .pattern .. => .skip

mutual

def ofCode (pos : List Nat) : Code → Flow Event
  | .line parts _ => ofParts pos parts
  | .hoist name _ => .event (.bound ⟨.hoisting, name⟩)
  | .declare binder source? _ name _ value =>
    .seq (ofParts pos value.toList) (.event (.bound ⟨binder, source?.getD name⟩))
  | .unpack targets _ value =>
    .seq (ofWritten pos value) (ofBinds (targets.map fun t => ⟨.unpacking, t.1⟩))
  | .assign name _ value => .seq (ofWritten pos value) (.event (.assigned name))
  | .leave parts _ => .seq (ofParts pos parts) (.jump .left)
  | .breakLoop => .jump .broke
  | .continueLoop => .jump .again
  | .choice branches otherwise =>
    ofBranches (0 :: pos) (ofBlock (1 :: pos) otherwise) branches
  | .whileLoop condition body => .loop (ofWritten (0 :: pos) condition) (ofBlock (1 :: pos) body)
  | .forLoop target _ items body =>
    .seq (ofWritten (0 :: pos) items)
      (.loop .skip (.seq (.event (.bound ⟨.loop, target⟩)) (ofBlock (1 :: pos) body)))
  | .scope body _ => ofBlock pos body
  | .attempt call value okBody error errBody =>
    .seq (ofWritten (0 :: pos) call) (.alt
        (.seq (ofBinds (value.toList.map fun v => ⟨.success, v.1⟩)) (ofBlock (1 :: pos) okBody))
        (.seq (.event (.bound ⟨.failure, error⟩)) (ofBlock (2 :: pos) errBody)))

def ofBlock (pos : List Nat) : List Code → Flow Event
  | [] => .skip
  | c :: cs => .seq (ofCode (0 :: pos) c) (ofBlock (1 :: pos) cs)

/-- The flow of the branches of a choice, of which at most one is taken. -/
def ofBranches (pos : List Nat) (otherwise : Flow Event) : List Branch → Flow Event
  | [] => otherwise
  | (head, body) :: branches =>
    .seq (ofHead (0 :: pos) head) (.alt (.seq (ofBinds head.binds) (ofBlock (1 :: pos) body))
        (.seq (.event (.passed head.source)) (ofBranches (2 :: pos) otherwise branches)))

end

/-! ### It does not depend on texts -/

lemma ofParts_erase (pos : List Nat) (ws : List Written) :
    ofParts pos (ws.map Written.erase) = ofParts pos ws := by
  induction ws generalizing pos with
  | nil => rfl
  | cons w ws ih =>
    rw [List.map_cons, ofParts, ofParts, ih]
    rfl

mutual

lemma ofCode_erase (pos : List Nat) (c : Code) : ofCode pos c.erase = ofCode pos c := by
  match c with
  | .line parts _ | .leave parts _ => rw [Code.erase, ofCode, ofCode, ofParts_erase]
  | .declare binder source? _ name _ value =>
    cases value <;> rfl
  | .unpack targets _ value =>
    rw [Code.erase, ofCode, ofCode, List.map_map]
    rfl
  | .choice branches otherwise =>
    rw [Code.erase, ofCode, ofCode, ofBlock_erase _ otherwise, ofBranches_erase _ _ branches]
  | .whileLoop _ body | .forLoop _ _ _ body =>
    rw [Code.erase, ofCode, ofCode, ofBlock_erase _ body]
    rfl
  | .scope body _ => rw [Code.erase, ofCode, ofCode, ofBlock_erase _ body]
  | .attempt call value okBody error errBody =>
    rw [Code.erase, ofCode, ofCode, ofBlock_erase _ okBody, ofBlock_erase _ errBody]
    cases value <;> rfl
  | .hoist .. | .assign .. | .breakLoop | .continueLoop => rfl

lemma ofBlock_erase (pos : List Nat) (cs : List Code) :
    ofBlock pos (Code.eraseBlock cs) = ofBlock pos cs := by
  match cs with
  | [] => rfl
  | c :: cs => rw [Code.eraseBlock, ofBlock, ofBlock, ofCode_erase _ c, ofBlock_erase _ cs]

lemma ofBranches_erase (pos : List Nat) (otherwise : Flow Event)
    (branches : List Branch) :
    ofBranches pos otherwise (Code.eraseBranches branches) = ofBranches pos otherwise branches := by
  match branches with
  | [] => rfl
  | (head, body) :: branches =>
    rw [Code.eraseBranches, ofBranches, ofBranches, ofBlock_erase _ body,
      ofBranches_erase _ _ branches]
    cases head <;> rfl

end

end Flow

/-! ## Guards along a path -/

namespace Event

/-- The variable is checked for nothing, and it is something. -/
def guards (x : String) : Event → Bool
  | .passed condition => condition.nothingVars.contains x
  | _ => false

/-- The name gets another value: it is assigned, or bound by a binder that counts. -/
def resets (counts : Binder → Bool) (x : String) : Event → Bool
  | .bound b => counts b.binder && b.name == x
  | .assigned name => name == x
  | _ => false

/-- One of the references `among` to the variable, taken out of its option. -/
def takes (among : Reference → Bool) (x : String) : Event → Bool
  | .read r => r.name == x && r.taken && among r
  | _ => false

def keepGuard (counts : Binder → Bool) (x : String) (guarded : Bool) (a : Event) : Bool :=
  a.guards x || (guarded && !a.resets counts x)

end Event

/-- The path leaves a choice that checks the variable for nothing on its false side, and does not
give the variable another value after it. -/
def Guarded (counts : Binder → Bool) (x : String) (path : List Event) : Prop :=
  ∃ before condition after, path = before ++ .passed condition :: after ∧
    x ∈ condition.nothingVars ∧ ∀ a ∈ after, a.resets counts x = false

section Guarded

variable {counts : Binder → Bool} {x : String} {path : List Event}

lemma guarded_cons {a : Event} : Guarded counts x (a :: path) ↔
      Guarded counts x path ∨ (a.guards x = true ∧ ∀ b ∈ path, b.resets counts x = false) := by
  constructor
  · rintro ⟨before, condition, after, heq, hx, hafter⟩
    cases before with
    | nil =>
      cases heq
      exact .inr ⟨by simpa [Event.guards] using hx, hafter⟩
    | cons b before =>
      cases heq
      exact .inl ⟨before, condition, after, rfl, hx, hafter⟩
  · rintro (⟨before, condition, after, rfl, hx, hafter⟩ | ⟨ha, hpath⟩)
    · exact ⟨a :: before, condition, after, rfl, hx, hafter⟩
    · cases a with
      | passed condition => exact ⟨[], condition, path, rfl, by simpa [Event.guards] using ha, hpath⟩
      | _ => cases ha

/-- Keeping one bit along a path tells whether the variable is guarded at its end. -/
lemma foldl_keepGuard_iff {guarded : Bool} : path.foldl (Event.keepGuard counts x) guarded = true ↔
      Guarded counts x path ∨ (guarded = true ∧ ∀ a ∈ path, a.resets counts x = false) := by
  induction path generalizing guarded with
  | nil => simp [Guarded]
  | cons a path ih =>
    rw [List.foldl_cons, ih, guarded_cons, List.forall_mem_cons]
    simp only [Event.keepGuard, Bool.or_eq_true, Bool.and_eq_true, Bool.not_eq_true']
    rw [or_and_right, and_assoc, or_assoc]

/-- A path comes to a selected event with the bit off exactly if it comes to a reference that takes
the variable out of its option without being guarded. -/
lemma exposed_takes_iff {among : Reference → Bool} :
    Flow.Exposed (Event.keepGuard counts x) (Event.takes among x) false path ↔
      ∃ before r after, path = before ++ .read r :: after ∧
        r.name = x ∧ r.taken = true ∧ among r = true ∧ ¬ Guarded counts x before := by
  have hbit (before : List Event) :
      before.foldl (Event.keepGuard counts x) false = false ↔ ¬ Guarded counts x before := by
    rw [← Bool.not_eq_true, foldl_keepGuard_iff]
    simp
  constructor
  · rintro ⟨before, a, after, heq, htakes, hoff⟩
    cases a with
    | read r =>
      simp only [Event.takes, Bool.and_eq_true, beq_iff_eq] at htakes
      exact ⟨before, r, after, heq, htakes.1.1, htakes.1.2, htakes.2, (hbit before).1 hoff⟩
    | _ => cases htakes
  · rintro ⟨before, r, after, heq, hname, htaken, hamong, hguard⟩
    refine ⟨before, .read r, after, heq, ?_, (hbit before).2 hguard⟩
    simp [Event.takes, hname, htaken, hamong]

end Guarded

/-! ## The body of a function -/

/-- In the written body of a function, every path to a reference that takes the variable out of its
option leaves a check for nothing on its false side and does not give the variable another value
after it, exactly if no reference is hit unguarded in the flow of the outline of the body. -/
theorem taken_guarded_iff (counts : Binder → Bool) (among : Reference → Bool) (x : String)
    (params : List Param) (result : Option Ty) (inResult : Bool) (body : List Stmt) (e : Emitter)
    (codes : List Code)
    (h : (e.run (Emit.functionBody params result inResult body)).1 = .ok codes) :
    (∀ path o, Flow.Runs (Flow.ofBlock [] codes) path o →
        ∀ before r after, path = before ++ .read r :: after →
          r.name = x → r.taken = true → among r = true → Guarded counts x before) ↔
      ¬ (Flow.ofBlock []
          (Outline.block (e.ctx.toFacts.enter params body) [] body 0).codes).Hits
        (Event.keepGuard counts x) (Event.takes among x) false := by
  rw [← Emit.functionBody_outline h, Flow.ofBlock_erase, Flow.hits_iff]
  simp only [exposed_takes_iff, not_exists, not_and, Classical.not_not]

/-- A function that returns its optional parameter after it has checked it for nothing. -/
def guardingFunction : IR.Function where
  name := "f"
  params := [{ name := "x", type := .generic "Optional" [.prim .int] }]
  result := some (.prim .int)
  body :=
    [.ifStmt (.binary .is (.name "x" none) (.literal .none none) none)
       [.ret (.literal (.int 0) none) none] [] [] none,
     .ret (.name "x" none) none]

/-- The parameter is only taken out of its option after the check. -/
theorem taken_guarded_guardingFunction :
    ∃ codes, (Emitter.run {} (Emit.functionBody guardingFunction.params guardingFunction.result
        false guardingFunction.body)).1 = .ok codes ∧
      ∀ path o, Flow.Runs (Flow.ofBlock [] codes) path o →
        ∀ before r after, path = before ++ .read r :: after →
          r.name = "x" → r.taken = true → Guarded (fun _ => true) "x" before := by
  obtain ⟨codes, hcodes⟩ := Emitter.exists_ok_of_isSome
    (e := {}) (x := Emit.functionBody guardingFunction.params guardingFunction.result false
      guardingFunction.body) (by decide +kernel)
  have hguarded := (taken_guarded_iff (fun _ => true) (fun _ => true) "x" _ _ _ _ _ _ hcodes).2
    (by decide +kernel)
  refine ⟨codes, hcodes, fun path o hrun before r after heq hname htaken => ?_⟩
  exact hguarded path o hrun before r after heq hname htaken rfl

/-- A function that checks its optional parameter for nothing in one branch only. -/
def halfGuardingFunction : IR.Function where
  name := "f"
  params := [{ name := "flag", type := .prim .bool },
    { name := "x", type := .generic "Optional" [.prim .int] }]
  result := some (.prim .int)
  body :=
    [.ifStmt (.name "flag" none) [.ifStmt (.binary .is (.name "x" none) (.literal .none none) none)
         [.ret (.literal (.int 0) none) none] [] [] none]
       [] [] none,
     .ret (.name "x" none) none]

/-- The parameter is taken out of its option on a path that does not check it. -/
theorem taken_unguarded_halfGuardingFunction :
    (transpile {} { name := "guarding", functions := [halfGuardingFunction] }).1.toOption =
        some ("pub fn f(flag: bool, x: Option<i64>) -> i64 \x7b\n    if flag \x7b\n" ++
          "        if x.is_none() \x7b\n            return 0;\n        \x7d\n    \x7d\n" ++
          "    x.unwrap()\n\x7d\n") ∧
      ∃ codes path o before r after,
        (Emitter.run {} (Emit.functionBody halfGuardingFunction.params
          halfGuardingFunction.result false halfGuardingFunction.body)).1 = .ok codes ∧
        Flow.Runs (Flow.ofBlock [] codes) path o ∧ path = before ++ .read r :: after ∧
        r.name = "x" ∧ r.taken = true ∧ ¬ Guarded (fun _ => false) "x" before := by
  refine ⟨by decide +kernel, ?_⟩
  obtain ⟨codes, hcodes⟩ := Emitter.exists_ok_of_isSome
    (e := {}) (x := Emit.functionBody halfGuardingFunction.params halfGuardingFunction.result
      false halfGuardingFunction.body) (by decide +kernel)
  have hhits : (Flow.ofBlock [] codes).Hits (Event.keepGuard (fun _ => false) "x")
      (Event.takes (fun _ => true) "x") false := by
    rw [← Flow.ofBlock_erase, Emit.functionBody_outline hcodes]
    decide +kernel
  obtain ⟨path, o, hrun, hexposed⟩ := Flow.hits_iff.1 hhits
  obtain ⟨before, r, after, heq, hname, htaken, _, hguard⟩ := exposed_takes_iff.1 hexposed
  exact ⟨codes, path, o, before, r, after, hcodes, hrun, heq, hname, htaken, hguard⟩

end Oxidize
