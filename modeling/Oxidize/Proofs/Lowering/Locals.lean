import Oxidize.Proofs.Lowering.Calls

/-!
# Local variables

Whether an assignment declares its variable is asked of all scopes, so a variable that the module
assigns before a function counts as declared inside of the function. This is the only trace that
what precedes a function leaves in it: the function is taken over as if it stood alone, and then its
assignments to such variables are no declarations (`lower_inside`).
-/

namespace Oxidize

open List

/-! ## Declarations by a first assignment -/

namespace IR

mutual

/-- The statement as it is taken over inside of scopes that define the names `outer`: an assignment
without a hint declares none of them. -/
def Stmt.inside (outer : String → Bool) : Stmt → Stmt
  | .assign target value none declares mutable line =>
    .assign target value none (declares && !outer target) mutable line
  | .ifStmt condition thenBody elifs elseBody line =>
    .ifStmt condition (insideBlock outer thenBody) (insideBranches outer elifs)
      (insideBlock outer elseBody) line
  | .whileLoop condition body line => .whileLoop condition (insideBlock outer body) line
  | .forLoop target source body line => .forLoop target source (insideBlock outer body) line
  | .withBlock context target body line =>
    .withBlock context target (insideBlock outer body) line
  | .tryBlock body handlers elseBody finallyBody line =>
    .tryBlock (insideBlock outer body) (insideHandlers outer handlers)
      (insideBlock outer elseBody) (insideBlock outer finallyBody) line
  | s => s

/-- The statements of a block, inside of scopes that define the names `outer`. -/
def insideBlock (outer : String → Bool) : List Stmt → List Stmt
  | [] => []
  | s :: rest => s.inside outer :: insideBlock outer rest

def insideBranches (outer : String → Bool) : List Elif → List Elif
  | [] => []
  | (condition, body) :: rest => (condition, insideBlock outer body) :: insideBranches outer rest

def insideHandlers (outer : String → Bool) : List Handler → List Handler
  | [] => []
  | (type, bound, body) :: rest =>
    (type, bound, insideBlock outer body) :: insideHandlers outer rest

end

mutual

/-- The names that a statement declares by an assignment without a hint. -/
def Stmt.unhinted : Stmt → List String
  | .assign target _ none true _ _ => [target]
  | .ifStmt _ thenBody elifs elseBody _ =>
    unhintedBlock thenBody ++ unhintedBranches elifs ++ unhintedBlock elseBody
  | .whileLoop _ body _ | .forLoop _ _ body _ | .withBlock _ _ body _ => unhintedBlock body
  | .tryBlock body handlers elseBody finallyBody _ =>
    unhintedBlock body ++ unhintedHandlers handlers ++ unhintedBlock elseBody
      ++ unhintedBlock finallyBody
  | _ => []

def unhintedBlock : List Stmt → List String
  | [] => []
  | s :: rest => s.unhinted ++ unhintedBlock rest

def unhintedBranches : List Elif → List String
  | [] => []
  | (_, body) :: rest => unhintedBlock body ++ unhintedBranches rest

def unhintedHandlers : List Handler → List String
  | [] => []
  | (_, _, body) :: rest => unhintedBlock body ++ unhintedHandlers rest

end

section Inside

variable {outer : String → Bool}

mutual

/-- Inside of other scopes the names of these scopes are not declared. -/
lemma unhinted_inside (s : Stmt) : (s.inside outer).unhinted = s.unhinted.filter (!outer ·) := by
  cases s with
  | assign target value annot declares mutable line =>
    cases annot with
    | some t => simp [Stmt.inside, Stmt.unhinted]
    | none => cases declares <;> cases h : outer target <;> simp [Stmt.inside, Stmt.unhinted, h]
  | ifStmt condition thenBody elifs elseBody line =>
    simp [Stmt.inside, Stmt.unhinted, unhintedBlock_inside thenBody,
      unhintedBranches_inside elifs, unhintedBlock_inside elseBody]
  | whileLoop _ body | forLoop _ _ body | withBlock _ _ body =>
    simpa [Stmt.inside, Stmt.unhinted] using unhintedBlock_inside body
  | tryBlock body handlers elseBody finallyBody line =>
    simp [Stmt.inside, Stmt.unhinted, unhintedBlock_inside body, unhintedHandlers_inside handlers,
      unhintedBlock_inside elseBody, unhintedBlock_inside finallyBody]
  | _ => simp [Stmt.inside, Stmt.unhinted]

lemma unhintedBlock_inside (body : List Stmt) :
    unhintedBlock (insideBlock outer body) = (unhintedBlock body).filter (!outer ·) := by
  cases body with
  | nil => rfl
  | cons s rest =>
    simp [insideBlock, unhintedBlock, unhinted_inside s, unhintedBlock_inside rest]

lemma unhintedBranches_inside (branches : List Elif) :
    unhintedBranches (insideBranches outer branches) =
      (unhintedBranches branches).filter (!outer ·) := by
  match branches with
  | [] => rfl
  | (condition, body) :: rest =>
    simp [insideBranches, unhintedBranches, unhintedBlock_inside body, unhintedBranches_inside rest]

lemma unhintedHandlers_inside (handlers : List IR.Handler) :
    unhintedHandlers (insideHandlers outer handlers) =
      (unhintedHandlers handlers).filter (!outer ·) := by
  match handlers with
  | [] => rfl
  | (type, bound, body) :: rest =>
    simp [insideHandlers, unhintedHandlers, unhintedBlock_inside body, unhintedHandlers_inside rest]

end

mutual

lemma inside_eq_self (s : Stmt) (h : ∀ x ∈ s.unhinted, outer x = false) : s.inside outer = s := by
  cases s with
  | assign target value annot declares mutable line =>
    cases annot with
    | some t => rfl
    | none =>
      cases declares with
      | false => rfl
      | true => simp [Stmt.inside, h target (by simp [Stmt.unhinted])]
  | ifStmt condition thenBody elifs elseBody line =>
    simp only [Stmt.unhinted, mem_append, or_imp, forall_and] at h
    obtain ⟨⟨hthen, helifs⟩, helse⟩ := h
    rw [Stmt.inside, insideBlock_eq_self thenBody hthen, insideBranches_eq_self elifs helifs,
      insideBlock_eq_self elseBody helse]
  | whileLoop _ body | forLoop _ _ body | withBlock _ _ body =>
    rw [Stmt.inside, insideBlock_eq_self body h]
  | tryBlock body handlers elseBody finallyBody line =>
    simp only [Stmt.unhinted, mem_append, or_imp, forall_and] at h
    obtain ⟨⟨⟨hbody, hhandlers⟩, helse⟩, hfinally⟩ := h
    rw [Stmt.inside, insideBlock_eq_self body hbody, insideHandlers_eq_self handlers hhandlers,
      insideBlock_eq_self elseBody helse, insideBlock_eq_self finallyBody hfinally]
  | _ => rfl

lemma insideBlock_eq_self (body : List Stmt) (h : ∀ x ∈ unhintedBlock body, outer x = false) :
    insideBlock outer body = body := by
  cases body with
  | nil => rfl
  | cons s rest =>
    simp only [unhintedBlock, mem_append, or_imp, forall_and] at h
    rw [insideBlock, inside_eq_self s h.1, insideBlock_eq_self rest h.2]

lemma insideBranches_eq_self (branches : List Elif)
    (h : ∀ x ∈ unhintedBranches branches, outer x = false) :
    insideBranches outer branches = branches := by
  match branches with
  | [] => rfl
  | (condition, body) :: rest =>
    simp only [unhintedBranches, mem_append, or_imp, forall_and] at h
    rw [insideBranches, insideBlock_eq_self body h.1, insideBranches_eq_self rest h.2]

lemma insideHandlers_eq_self (handlers : List IR.Handler)
    (h : ∀ x ∈ unhintedHandlers handlers, outer x = false) :
    insideHandlers outer handlers = handlers := by
  match handlers with
  | [] => rfl
  | (type, bound, body) :: rest =>
    simp only [unhintedHandlers, mem_append, or_imp, forall_and] at h
    rw [insideHandlers, insideBlock_eq_self body h.1, insideHandlers_eq_self rest h.2]

end

end Inside

end IR

namespace Syntax

mutual

/-- The names that a statement assigns, itself or in its blocks. The `else` of a loop does not
count, since it is dropped. -/
def Stmt.assigned : Stmt → List String
  | .assign [.name id _ _] _ _ => [id]
  | .assign [.tuple elements _ _] _ _ => elements.filterMap Expr.name?
  | .annAssign (.name id _ _) _ _ _ => [id]
  | .ifStmt _ body orelse _ => assignedIn body ++ assignedIn orelse
  | .whileLoop _ body _ _ | .forLoop _ _ body _ _ | .withStmt _ body _ => assignedIn body
  | .tryStmt body handlers orelse finalBody _ =>
    assignedIn body ++ (assignedInHandlers handlers ++ (assignedIn orelse ++ assignedIn finalBody))
  | _ => []

def assignedIn : List Stmt → List String
  | [] => []
  | s :: rest => s.assigned ++ assignedIn rest

def assignedInHandlers : List Handler → List String
  | [] => []
  | (_, _, body) :: rest => assignedIn body ++ assignedInHandlers rest

end

end Syntax

namespace Lower

open Syntax

variable {α β γ δ : Type} {outer : String → Bool}

/-! ## Marks of mutability keep declarations -/

mutual

lemma unhinted_markStmt (s : IR.Stmt) (p : Pending) : (markStmt s p).1.unhinted = s.unhinted := by
  cases s with
  | assign target value annot declares mutable line =>
    rw [markStmt]
    cases annot <;> cases declares <;> rfl
  | tupleUnpack targets value annots declares mutables line =>
    rw [markStmt]
    rfl
  | ifStmt condition thenBody elifs elseBody line =>
    rw [markStmt]
    show IR.unhintedBlock _ ++ _ ++ IR.unhintedBlock _ = _
    rw [unhintedBlock_markBlock thenBody, unhintedBlock_markBlock elseBody]
    rfl
  | forLoop _ _ body | whileLoop _ body | withBlock _ _ body =>
    rw [markStmt]
    exact unhintedBlock_markBlock body p
  | tryBlock body handlers elseBody finallyBody line =>
    rw [markStmt]
    show IR.unhintedBlock _ ++ IR.unhintedHandlers _ ++ _ ++ IR.unhintedBlock _ = _
    rw [unhintedBlock_markBlock body, unhintedHandlers_markHandlers,
      unhintedBlock_markBlock finallyBody]
    rfl
  | _ => rfl

lemma unhintedBlock_markBlock (body : List IR.Stmt) (p : Pending) :
    IR.unhintedBlock (markBlock body p).1 = IR.unhintedBlock body := by
  cases body with
  | nil => rfl
  | cons s rest =>
    rw [markBlock]
    show IR.Stmt.unhinted _ ++ IR.unhintedBlock _ = _
    rw [unhinted_markStmt s, unhintedBlock_markBlock rest]
    rfl

lemma unhintedHandlers_markHandlers (handlers : List IR.Handler) (p : Pending) :
    IR.unhintedHandlers (markHandlers handlers p).1 = IR.unhintedHandlers handlers := by
  match handlers with
  | [] => rfl
  | (type, bound, body) :: rest =>
    rw [markHandlers]
    show IR.unhintedBlock _ ++ IR.unhintedHandlers _ = _
    rw [unhintedBlock_markBlock body, unhintedHandlers_markHandlers rest]
    rfl

end

lemma unhintedBlock_markMutable (body : List IR.Stmt) :
    IR.unhintedBlock (markMutable body) = IR.unhintedBlock body :=
  unhintedBlock_markBlock body _

/-! ## Two runs side by side -/

/-- The scopes `t` define the names of `s` and those of `outer`. -/
def Adds (outer : String → Bool) (s t : Scopes) : Prop :=
  ∀ x, t.isDefined x = (s.isDefined x || outer x)

/-- Two attempts fail in the same way, or both give results, which `R` relates. -/
def Alike (R : α → β → Prop) : Except LowerError α → Except LowerError β → Prop
  | .ok a, .ok b => R a b
  | .error e, .error e' => e' = e
  | _, _ => False

/-- From scopes of which the second ones add the names `outer`, the two actions fail in the same
way, or both give results that `R` relates, and the second scopes still add these names. -/
def Paired (outer : String → Bool) (R : α → β → Prop) (x : Lower α) (y : Lower β) : Prop :=
  ∀ s t, Adds outer s t → Alike (fun p q => R p.1 q.1 ∧ Adds outer p.2 q.2) (x.run s) (y.run t)

namespace Paired

variable {R : α → β → Prop} {x : Lower α} {y : Lower β}

lemma pure {a : α} {b : β} (h : R a b) : Paired outer R (pure a) (pure b) :=
  fun _ _ hadds => ⟨h, hadds⟩

lemma throw (error : LowerError) : Paired outer R (throw error) (throw error) :=
  fun _ _ _ => rfl

lemma bind {S : γ → δ → Prop} {f : α → Lower γ} {g : β → Lower δ} (hxy : Paired outer R x y)
    (hfg : ∀ a b, R a b → Paired outer S (f a) (g b)) : Paired outer S (x >>= f) (y >>= g) := by
  intro s t hadds
  have h := hxy s t hadds
  cases hx : x.run s with
  | error e =>
    cases hy : y.run t with
    | error e' =>
      rw [hx, hy] at h
      rw [run_bind_error hx, run_bind_error hy]
      exact h
    | ok q =>
      rw [hx, hy] at h
      exact h.elim
  | ok p =>
    cases hy : y.run t with
    | error e' =>
      rw [hx, hy] at h
      exact h.elim
    | ok q =>
      rw [hx, hy] at h
      rw [run_bind_ok hx, run_bind_ok hy]
      exact hfg _ _ h.1 _ _ h.2

lemma of_steady (hx : Steady x) : Paired outer Eq x x := by
  intro s t hadds
  obtain ⟨result, hrun⟩ := hx
  rw [hrun, hrun]
  cases result with
  | error e => rfl
  | ok a => exact ⟨rfl, hadds⟩

lemma steady {R : β → γ → Prop} {f : α → Lower β} {g : α → Lower γ} (hx : Steady x)
    (hfg : ∀ a, Paired outer R (f a) (g a)) : Paired outer R (x >>= f) (x >>= g) :=
  (of_steady hx).bind fun a _ h => h ▸ hfg a

end Paired

/-! ## Scopes -/

lemma isDefined_define (s : Scopes) (name x : String) (line : IR.Line) :
    (s.define name line).isDefined x = (decide (x = name) || s.isDefined x) := by
  unfold Scopes.isDefined Scopes.lookup? Scopes.define
  rw [findSome?_cons, findSome?_cons]
  by_cases h : x = name
  · subst h
    simp [Table.get?_set_self]
  · simp [Table.get?_set_of_ne, h]

lemma Adds.define {s t : Scopes} (hadds : Adds outer s t) (name : String) (line : IR.Line) :
    Adds outer (s.define name line) (t.define name line) := by
  intro x
  rw [isDefined_define, isDefined_define, hadds x, Bool.or_assoc]

lemma declare_run (s : Scopes) (name : String) (line : Nat) : (declare name line).run s =
      if s.isDefined name then .ok (false, s) else .ok (true, s.define name line) :=
  apply_ite (fun x : Lower Bool => x.run s) _ _ _

lemma declare_paired (name : String) (line : Nat) :
    Paired outer (fun a b => b = (a && !outer name)) (declare name line) (declare name line) := by
  intro s t hadds
  have hname := hadds name
  rw [declare_run, declare_run]
  cases hs : s.isDefined name with
  | true =>
    rw [hs, Bool.true_or] at hname
    rw [hname, if_pos rfl, if_pos rfl]
    exact ⟨rfl, hadds⟩
  | false =>
    rw [hs, Bool.false_or] at hname
    cases houter : outer name with
    | true =>
      rw [hname, houter, if_pos rfl, if_neg Bool.false_ne_true]
      refine ⟨rfl, fun x => ?_⟩
      rw [isDefined_define, hadds x]
      by_cases hx : x = name
      · simp [hx, houter]
      · simp [hx]
    | false =>
      rw [hname, houter, if_neg Bool.false_ne_true]
      exact ⟨rfl, hadds.define name line⟩

/-! ## The names that an action defines -/

lemma inScope_run (x : Lower α) (s : Scopes) :
    (inScope x).run s = (x.run s.push).map fun p => (p.1, p.2.pop) := by
  have hpush : (modify Scopes.push : Lower Unit).run s = .ok ((), s.push) := rfl
  unfold inScope
  rw [run_bind_ok hpush]
  cases hx : x.run s.push with
  | error e => exact run_bind_error hx
  | ok p =>
    rw [run_bind_ok hx]
    rfl

/-- The action defines the names in the scope at hand, and nothing else. -/
def Defines (names : List String) (x : Lower α) : Prop :=
  ∀ ⦃s : Scopes⦄ ⦃a : α⦄ ⦃s' : Scopes⦄, x.run s = .ok (a, s') →
    s'.outer = s.outer ∧ ∀ y, s'.isDefined y = (s.isDefined y || names.contains y)

namespace Defines

variable {names more : List String} {x : Lower α} {f : α → Lower β}

lemma of_steady (hx : Steady x) : Defines [] x := by
  intro s a s' h
  obtain ⟨result, hrun⟩ := hx
  rw [hrun] at h
  cases result with
  | error e => cases h
  | ok a =>
    cases h
    exact ⟨rfl, fun y => by simp⟩

lemma throw (names : List String) (error : LowerError) : Defines names (throw error : Lower α) :=
  nofun

lemma bind (hx : Defines names x) (hf : ∀ a, Defines more (f a)) :
    Defines (names ++ more) (x >>= f) := by
  intro s b s'' h
  obtain ⟨a, s', hrun, hnext⟩ := of_run_bind h
  obtain ⟨houter, hnames⟩ := hx hrun
  obtain ⟨houter', hmore⟩ := hf a hnext
  refine ⟨houter'.trans houter, fun y => ?_⟩
  rw [hmore, hnames, Bool.or_assoc, contains_append]

lemma after (hx : Steady x) (hf : ∀ a, Defines names (f a)) : Defines names (x >>= f) :=
  (of_steady hx).bind hf

lemma before (hx : Defines names x) (hf : ∀ a, Steady (f a)) : Defines names (x >>= f) := by
  have h := hx.bind fun a => of_steady (hf a)
  rwa [append_nil] at h

lemma map (hx : Defines names x) (f : α → β) : Defines names (do return f (← x)) :=
  hx.before fun a => .pure (f a)

lemma inScope (names : List String) (hx : Defines names x) : Defines [] (inScope x) := by
  intro s a s' h
  rw [inScope_run] at h
  cases hrun : x.run s.push with
  | error e =>
    rw [hrun] at h
    cases h
  | ok p =>
    rw [hrun] at h
    cases h
    have hpop : p.2.pop = s := by
      unfold Scopes.pop
      rw [(hx hrun).1]
      rfl
    refine ⟨by rw [hpop], fun y => by rw [hpop]; simp⟩

end Defines

lemma define_defines (name : String) (line : Nat) : Defines [name] (define name line) := by
  intro s a s' h
  cases h
  refine ⟨rfl, fun y => ?_⟩
  rw [isDefined_define, Bool.or_comm]
  simp

lemma declare_defines (name : String) (line : Nat) : Defines [name] (declare name line) := by
  intro s a s' h
  rw [declare_run] at h
  cases hname : s.isDefined name with
  | true =>
    rw [hname, if_pos rfl] at h
    cases h
    refine ⟨rfl, fun y => ?_⟩
    by_cases hy : y = name
    · simp [hy, hname]
    · simp [hy]
  | false =>
    rw [hname, if_neg Bool.false_ne_true] at h
    cases h
    refine ⟨rfl, fun y => ?_⟩
    rw [isDefined_define, Bool.or_comm]
    simp

/-! ## Statements -/

/-- The action defines `names`, and it tells the user about its errors. Where further scopes define
the names `outer`, the action `y` gives what `view` makes of its result. -/
structure Lowers (outer : String → Bool) (names : List String) (view : α → β) (x : Lower α)
    (y : Lower β) : Prop where
  paired : Paired outer (fun a b => b = view a) x y
  defines : Defines names x
  throws : Throws LowerError.IsTold x

namespace Lowers

variable {names more : List String} {x : Lower α} {y : Lower β} {view : α → β} {look : γ → δ}
  {f : α → Lower γ}

lemma pure {a : α} {b : β} (h : b = view a) : Lowers outer [] view (pure a) (pure b) :=
  ⟨.pure h, .of_steady (.pure a), .pure a⟩

lemma throw {feature : Feature} {line : Nat} :
    Lowers outer names view (unsupported feature line) (unsupported feature line) :=
  ⟨.throw _, .throw names _, .throw nofun⟩

lemma bind {g : β → Lower δ} (hxy : Lowers outer names view x y)
    (hfg : ∀ a, Lowers outer more look (f a) (g (view a))) :
    Lowers outer (names ++ more) look (x >>= f) (y >>= g) where
  paired := hxy.paired.bind fun a _ h => h ▸ (hfg a).paired
  defines := hxy.defines.bind fun a => (hfg a).defines
  throws := hxy.throws.bind fun a => (hfg a).throws

lemma after {g : α → Lower δ} (hx : Calm x) (hfg : ∀ a, Lowers outer names look (f a) (g a)) :
    Lowers outer names look (x >>= f) (x >>= g) where
  paired := .steady hx.steady fun a => (hfg a).paired
  defines := .after hx.steady fun a => (hfg a).defines
  throws := hx.throws.bind fun a => (hfg a).throws

lemma map {f : α → γ} {g : β → δ} (hxy : Lowers outer names view x y)
    (h : ∀ a, g (view a) = look (f a)) :
    Lowers outer names look (do return f (← x)) (do return g (← y)) where
  paired := hxy.paired.bind fun a _ hb => .pure (hb ▸ h a)
  defines := hxy.defines.map f
  throws := hxy.throws.map f

end Lowers

section

variable (outer)

lemma define_lowers (name : String) (line : Nat) :
    Lowers outer [name] id (define name line) (define name line) :=
  ⟨fun _ _ hadds => ⟨rfl, hadds.define name line⟩, define_defines name line, .modify _⟩

lemma declare_lowers (name : String) (line : Nat) :
    Lowers outer [name] (· && !outer name) (declare name line) (declare name line) where
  paired := declare_paired name line
  defines := declare_defines name line
  throws := by
    intro s error h
    rw [declare_run] at h
    split at h <;> cases h

lemma unpackNames_lowers (line : Nat) (elements : List Expr) :
    Lowers outer (elements.filterMap Expr.name?) id (unpackNames line elements)
      (unpackNames line elements) := by
  induction elements with
  | nil => exact .pure rfl
  | cons e elements ih =>
    rw [unpackNames]
    cases hname : e.name? with
    | some name =>
      rw [filterMap_cons_some hname]
      exact (declare_lowers outer name line).bind fun _ => ih.map fun _ => rfl
    | none => exact .throw

lemma assign_lowers (targets : List Expr) (value : Expr) (line : Nat) :
    Lowers outer (Syntax.Stmt.assigned (.assign targets value line)) (IR.Stmt.inside outer)
      (assign targets value line) (assign targets value line) := by
  unfold assign
  split
  · refine .after (expr_balance value).calm fun lowered => ?_
    split
    · exact .after (expr_balance _).calm fun obj => .pure rfl
    · refine .after (expr_balance _).calm fun obj => ?_
      exact .after (expr_balance _).calm fun index => .pure rfl
    · exact (unpackNames_lowers outer _ _).map fun names => rfl
    · exact (declare_lowers outer _ _).map fun declares => rfl
    · exact .throw
  · exact .throw

lemma hintedAssign_lowers (target hint : Expr) (value : Option Expr) (line : Nat) :
    Lowers outer (Syntax.Stmt.assigned (.annAssign target hint value line)) (IR.Stmt.inside outer)
      (hintedAssign target hint value line) (hintedAssign target hint value line) := by
  unfold hintedAssign
  split
  · refine .after (expr_balance _).calm fun owner => .after (liftHint_calm _ hint) fun type => ?_
    exact .after (operand_balance value).calm fun lowered => .pure rfl
  · refine .after (liftHint_calm _ hint) fun type => ?_
    refine .after (operand_balance value).calm fun lowered => ?_
    exact (define_lowers outer _ line).map fun _ => rfl
  · exact .throw

lemma update_lowers (target : Expr) (op : Syntax.BinOp) (value : Expr) (line : Nat) :
    Lowers outer [] (IR.Stmt.inside outer) (update target op value line)
      (update target op value line) := by
  unfold update
  split
  · exact .throw
  · refine .after (expr_balance value).calm fun right => ?_
    split
    · exact .after (expr_balance _).calm fun owner => .pure rfl
    · exact .pure rfl
    · exact .throw

lemma insideBlock_append (body rest : List IR.Stmt) :
    IR.insideBlock outer (body ++ rest) = IR.insideBlock outer body ++ IR.insideBlock outer rest := by
  induction body with
  | nil => rfl
  | cons s body ih => simp [IR.insideBlock, ih]

lemma insideBlock_toList (s : Option IR.Stmt) :
    IR.insideBlock outer s.toList = (s.map (·.inside outer)).toList := by
  cases s <;> simp [IR.insideBlock]

mutual

lemma stmt_lowers (s : Syntax.Stmt) :
    Lowers outer s.assigned (Option.map (·.inside outer)) (stmt s) (stmt s) := by
  cases s with
  | assign targets value line =>
    rw [stmt]
    exact (assign_lowers outer targets value line).map fun s => rfl
  | annAssign target hint value line =>
    rw [stmt]
    exact (hintedAssign_lowers outer target hint value line).map fun s => rfl
  | augAssign target op value line =>
    rw [stmt]
    exact (update_lowers outer target op value line).map fun s => rfl
  | ret value line =>
    rw [stmt]
    exact .after (operand_balance value).calm fun lowered => .pure rfl
  | ifStmt test body orelse line =>
    rw [stmt]
    refine .after (expr_balance test).calm fun condition => ?_
    exact (block_lowers body).bind fun thenBody => (elseChain_lowers orelse).map fun rest => rfl
  | whileLoop test body orelse line =>
    rw [stmt]
    refine .after (expr_balance test).calm fun condition => ?_
    exact (block_lowers body).map fun lowered => rfl
  | forLoop target source body orelse line =>
    rw [stmt]
    refine .after (loopTarget_calls target line).calm fun name => ?_
    refine .after (expr_balance source).calm fun items => ?_
    exact (block_lowers body).map fun lowered => rfl
  | withStmt items body line =>
    rw [stmt]
    refine .after (resource_balance items line).calm fun opened => ?_
    exact (block_lowers body).map fun lowered => rfl
  | tryStmt body arms orelse finalBody line =>
    rw [stmt]
    refine (block_lowers body).bind fun tryBody => ?_
    refine (handlers_lowers arms).bind fun lowered => ?_
    refine (block_lowers orelse).bind fun elseBody => ?_
    exact (block_lowers finalBody).map fun finallyBody => rfl
  | raise error cause line =>
    rw [stmt]
    exact .after (operand_balance error).calm fun lowered => .pure rfl
  | expr value line =>
    rw [stmt]
    exact .after (expr_balance value).calm fun lowered => .pure rfl
  | pass | breakLoop | continueLoop | importNames | importFrom => exact .pure rfl
  | functionDef | classDef | other => exact .throw

lemma block_lowers (body : List Syntax.Stmt) :
    Lowers outer (assignedIn body) (IR.insideBlock outer) (block body) (block body) := by
  cases body with
  | nil => exact .pure rfl
  | cons s rest =>
    rw [block]
    refine (stmt_lowers s).bind fun first => (block_lowers rest).map fun later => ?_
    rw [insideBlock_append, insideBlock_toList]

lemma elseChain_lowers (orelse : List Syntax.Stmt) : Lowers outer (assignedIn orelse)
      (fun rest => (IR.insideBranches outer rest.1, IR.insideBlock outer rest.2))
      (elseChain orelse) (elseChain orelse) := by
  rw [elseChain.eq_def]
  split
  · exact .pure rfl
  · rw [assignedIn, assignedIn, append_nil]
    refine .after (expr_balance _).calm fun condition => ?_
    exact (block_lowers _).bind fun branch => (elseChain_lowers _).map fun others => rfl
  · refine (stmt_lowers _).bind fun first => (block_lowers _).map fun later => ?_
    rw [insideBlock_append, insideBlock_toList]
    rfl

lemma handlers_lowers (arms : List Syntax.Handler) :
    Lowers outer (assignedInHandlers arms) (IR.insideHandlers outer) (handlers arms)
      (handlers arms) := by
  match arms with
  | [] => exact .pure rfl
  | (type, bound, body) :: rest =>
    rw [handlers]
    exact (block_lowers body).bind fun lowered => (handlers_lowers rest).map fun later => rfl

end

lemma ordinaryParams_lowers (defaults : List Expr) (count : Nat)
    (args : List (Syntax.Arg × Nat)) : Lowers outer ((args.map (·.1.name)).filter (· != "self")) id
      (ordinaryParams defaults count args) (ordinaryParams defaults count args) := by
  induction args with
  | nil => exact .pure rfl
  | cons arg args ih =>
    obtain ⟨a, i⟩ := arg
    rw [ordinaryParams, map_cons]
    split
    · next hself => rwa [filter_cons_of_neg (by simpa using hself)]
    · next hself =>
      rw [filter_cons_of_pos (by simpa using hself)]
      refine .after (paramType_calm _ a) fun type => ?_
      refine .after (operand_balance _).calm fun default => ?_
      exact (define_lowers outer a.name a.line).bind fun _ => ih.map fun params => rfl

lemma lowerParams_lowers (p : Syntax.Params) :
    Lowers outer ((p.ordinary.map (·.name)).filter (· != "self")) id (lowerParams p)
      (lowerParams p) := by
  have hnames : p.ordinary.zipIdx.map (·.1.name) = p.ordinary.map (·.name) := by
    rw [← zipIdx_map_fst 0 p.ordinary, map_map, zipIdx_map_fst]
    rfl
  unfold lowerParams
  rw [← hnames, ← append_nil (List.filter _ _)]
  refine (ordinaryParams_lowers outer _ _ _).bind fun ordinary => ?_
  refine .after (.listMapM fun a => (paramType_calm _ a).map _) fun rest => ?_
  exact .after (.listMapM fun a => (paramType_calm _ a).map _) fun namedRest => .pure rfl

end

/-! ## Functions side by side -/

lemma attributes_steady (lines : List String) (line : Nat) : Steady (attributes lines line) := by
  unfold attributes
  split
  · exact .pure _
  · exact .throw _

/-- Inside of scopes that define further names, a function is taken over as alone, but for its first
assignments to these names. -/
def Inside (outer : String → Bool) (f g : IR.Function) : Prop :=
  ∃ body, f.body = markMutable body ∧ g = { f with body := markMutable (IR.insideBlock outer body) }

lemma Inside.eq_iff {f g : IR.Function} (h : Inside outer f g) :
    g = f ↔ ∀ x ∈ IR.unhintedBlock f.body, outer x = false := by
  obtain ⟨body, hf, rfl⟩ := h
  rw [hf, unhintedBlock_markMutable]
  constructor
  · intro heq x hx
    have hbody : IR.unhintedBlock (markMutable (IR.insideBlock outer body)) =
        IR.unhintedBlock (markMutable body) := by
      rw [← hf, ← congrArg IR.Function.body heq]
    rw [unhintedBlock_markMutable, unhintedBlock_markMutable, IR.unhintedBlock_inside] at hbody
    rw [← hbody] at hx
    simpa using (mem_filter.1 hx).2
  · intro hnone
    rw [IR.insideBlock_eq_self body hnone, ← hf]

lemma Paired.inScope {R : α → β → Prop} {x : Lower α} {y : Lower β} {s : Scopes}
    (h : Paired s.isDefined R x y) :
    Alike (fun p q => R p.1 q.1) ((inScope x).run {}) ((inScope y).run s) := by
  have hadds : Adds s.isDefined ({} : Scopes).push s.push := fun _ => rfl
  have hruns := h _ _ hadds
  rw [inScope_run, inScope_run]
  cases hx : x.run ({} : Scopes).push <;> cases hy : y.run s.push <;> rw [hx, hy] at hruns
  · exact hruns
  · exact hruns
  · exact hruns
  · exact hruns.1

lemma lower_inside (lines : List String) (d : FunctionDef) (s : Scopes) :
    Alike (fun p q => Inside s.isDefined p.1 q.1) ((d.lower lines).run {})
      ((d.lower lines).run s) := by
  unfold FunctionDef.lower
  apply Paired.inScope
  refine .steady (attributes_steady lines d.line) fun attributes => ?_
  refine (lowerParams_lowers _ d.params).paired.bind fun params _ h => h ▸ ?_
  refine .steady (returns_calm _ _).steady fun result => ?_
  refine (block_lowers _ _).paired.bind fun body _ h => ?_
  subst h
  exact .pure ⟨body, rfl, rfl⟩

lemma Alike.eq_iff_of_inside {r r' : Except LowerError (IR.Function × Scopes)}
    (h : Alike (fun p q => Inside outer p.1 q.1) r r') : r'.map Prod.fst = r.map Prod.fst ↔
      ∀ f, r.map Prod.fst = .ok f → ∀ x ∈ IR.unhintedBlock f.body, outer x = false := by
  cases r with
  | error e =>
    cases r' with
    | error e' =>
      have he : e' = e := h
      rw [he]
      refine ⟨fun _ f hf => ?_, fun _ => rfl⟩
      rw [Except.map] at hf
      cases hf
    | ok q => exact h.elim
  | ok p =>
    cases r' with
    | error e' => exact h.elim
    | ok q =>
      have heq : (Except.ok q.1 : Except LowerError IR.Function) = .ok p.1 ↔ q.1 = p.1 :=
        ⟨Except.ok.inj, congrArg _⟩
      refine heq.trans ((Inside.eq_iff h).trans ⟨fun hnone f hf => ?_, fun hnone => hnone p.1 rfl⟩)
      rw [← Except.ok.inj hf]
      exact hnone

/-- A function is the same as alone exactly if no scope around it defines a name that it declares by
an assignment without a hint. -/
lemma lower_eq_alone_iff (lines : List String) (d : FunctionDef) (s : Scopes) :
    ((d.lower lines).run s).map Prod.fst = ((d.lower lines).run {}).map Prod.fst ↔
      ∀ f, ((d.lower lines).run {}).map Prod.fst = .ok f →
        ∀ x ∈ IR.unhintedBlock f.body, s.isDefined x = false :=
  (lower_inside lines d s).eq_iff_of_inside

/-! ## Names that a module assigns -/

lemma lower_defines (lines : List String) (d : FunctionDef) : Defines [] (d.lower lines) := by
  unfold FunctionDef.lower
  refine .inScope ((d.params.ordinary.map (·.name)).filter (· != "self") ++
    assignedIn (Syntax.splitDoc d.body).2) ?_
  refine .after (attributes_steady lines d.line) fun attributes => ?_
  refine (lowerParams_lowers (fun _ => false) d.params).defines.bind fun params => ?_
  exact .after (returns_calm _ _).steady fun result => (block_lowers (fun _ => false) _).defines.map _

lemma members_defines (lines : List String) (body : List Syntax.Stmt) :
    Defines [] (members lines body) := by
  induction body with
  | nil => exact .of_steady (.pure _)
  | cons s body ih =>
    unfold members
    split
    · exact .after (.lift _) fun type => ih.map _
    · split
      · exact Defines.bind ((lower_defines lines _).map _) fun f => ih.map _
      · exact ih

lemma classItem_defines (lines : List String) (name : String) (bases : List Expr)
    (body : List Syntax.Stmt) (decorators : List Expr) (line : Nat) :
    Defines [] (classItem lines name bases body decorators line) := by
  unfold classItem
  refine .inScope [] (.after (attributes_steady lines line) fun attributes => ?_)
  refine (members_defines lines _).bind fun m => .of_steady ?_
  dsimp only
  split
  · split
    · exact (constructorFields_calm _).steady.map _
    · exact .pure _
  · exact .pure _

/-- A function or a class leaves no name behind, and any other statement those it assigns. -/
lemma item_defines (lines : List String) (s : Syntax.Stmt) : Defines s.assigned (item lines s) := by
  cases s with
  | importNames | importFrom => exact .of_steady (.pure _)
  | classDef name bases keywords body decorators line =>
    exact (classItem_defines lines name bases body decorators line).map _
  | functionDef isAsync name params body decorators returns line =>
    exact (lower_defines lines _).map _
  | _ => exact (stmt_lowers (fun _ => false) _).defines.map _

lemma items_defines (lines : List String) (body : List Syntax.Stmt) :
    Defines (assignedIn body) (body.mapM (item lines)) := by
  induction body with
  | nil => exact .of_steady (.pure _)
  | cons s body ih =>
    rw [mapM_cons]
    exact (item_defines lines s).bind fun first => ih.map _

/-- A function is the same as alone exactly if none of the variables that it declares by an
assignment without a hint is assigned by the module before. -/
theorem lower_after_eq_alone_iff (lines : List String) (preceding : List Syntax.Stmt)
    (d : FunctionDef) {items : List (Option Item)} {s : Scopes}
    (h : (preceding.mapM (item lines)).run {} = .ok (items, s)) :
    ((d.lower lines).run s).map Prod.fst = ((d.lower lines).run {}).map Prod.fst ↔
      ∀ f, ((d.lower lines).run {}).map Prod.fst = .ok f →
        ∀ x ∈ IR.unhintedBlock f.body, x ∉ assignedIn preceding := by
  rw [lower_eq_alone_iff]
  have hdefined : ∀ x, s.isDefined x = (assignedIn preceding).contains x :=
    (items_defines lines preceding h).2
  simp only [hdefined, contains_eq_mem, decide_eq_false_iff_not]

/-- A function that assigns 2 to a variable and returns it, in the lines from `line` on. -/
def settingFunction (target : String) (line : Nat) : FunctionDef where
  isAsync := false
  name := "f"
  params := .mk [] [] none [] [] none []
  body := [.assign [.name target .store (line + 1)] (.constant (.int 2) none (line + 1)) (line + 1),
    .ret (some (.name target .load (line + 2))) (line + 2)]
  decorators := []
  returns := some (.name "int" .load line)
  line := line

/-- The module assigns `x`, and `y` in a branch. -/
def settingStatements : List Syntax.Stmt :=
  [.assign [.name "x" .store 1] (.constant (.int 1) none 1) 1,
   .ifStmt (.name "x" .load 2) [.assign [.name "y" .store 3] (.constant (.int 1) none 3) 3] [] 2]

/-- After these statements, a function with a variable of another name is the same as alone. -/
theorem lower_settingFunction_eq_alone :
    ∃ items s, (settingStatements.mapM (item [])).run {} = .ok (items, s) ∧
      (((settingFunction "z" 4).lower []).run s).map Prod.fst =
        (((settingFunction "z" 4).lower []).run {}).map Prod.fst := by
  refine ⟨_, _, rfl, (lower_after_eq_alone_iff [] settingStatements _ rfl).2 fun f hf x hx => ?_⟩
  cases hf
  revert x
  decide

/-- A function that declares `x` when it stands alone declares nothing after these statements. -/
theorem lower_settingFunction_ne_alone :
    (((settingStatements.mapM (item []) *> (settingFunction "x" 4).lower []).run {}).toOption.map
        fun p => IR.unhintedBlock p.1.body) = some [] ∧
      ((((settingFunction "x" 4).lower []).run {}).toOption.map
        fun p => IR.unhintedBlock p.1.body) = some ["x"] := by
  decide

end Lower

end Oxidize
