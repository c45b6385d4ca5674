import Oxidize.Proofs.Flow.Narrowing
import Oxidize.Proofs.Reading.Variables

/-!
# Variables that are bound under another name

A variable that is assigned once and never read is bound with an underscore in front of its name.
The search for read variables does not look everywhere: it misses the names of called functions and
every expression of an assignment to an item (`IR.blockUnseen`). For the body of every function it
is shown that a variable that is bound under another name is not assigned elsewhere, and that it is
mentioned only where the search does not look, or if it is read elsewhere than in the pushes
(`renamed_mentioned`). The proof counts: the code of a block mentions no name more often than its
statements read it or hold it unseen.
-/

namespace Oxidize

open List IR Stmt

/-! ## Names that the search does not see -/

namespace IR

mutual

def Expr.called : Expr → List String
  | .absent | .literal .. | .name .. | .other .. => []
  | .binary _ left right _ | .subscript left right _ => left.called ++ right.called
  | .unary _ e _ | .attr e _ _ | .formatted e _ _ | .await e _ => e.called
  | .call func args kwargs _ =>
    (match func with
     | .name n _ => [n]
     | f => f.called) ++ calledAll args ++ calledNamed kwargs
  | .method obj _ args kwargs _ => obj.called ++ calledAll args ++ calledNamed kwargs
  | .slice a b c _ | .ifExp a b c _ => a.called ++ b.called ++ c.called
  | .list es _ | .set es _ | .tuple es _ | .fstring es _ => calledAll es
  | .dict entries _ => calledEntries entries
  | .listComp element _ source conditions _ =>
    source.called ++ element.called ++ calledAll conditions

def calledAll : List Expr → List String
  | [] => []
  | e :: es => e.called ++ calledAll es

def calledNamed : Table Expr → List String
  | [] => []
  | (_, e) :: rest => e.called ++ calledNamed rest

def calledEntries : List (Expr × Expr) → List String
  | [] => []
  | (k, v) :: rest => k.called ++ v.called ++ calledEntries rest

end

mutual

/-- The names that a statement holds where the search for read variables does not look. -/
def Stmt.unseen : Stmt → List String
  | .assign _ e _ _ _ _ | .tupleUnpack _ e _ _ _ _ | .expr e _ | .ret e _ | .raise e _ => e.called
  | .attrAssign obj _ value _ _ => obj.called ++ value.called
  | .subscriptAssign obj index value _ => obj.names ++ index.names ++ value.names
  | .ifStmt condition thenBody elifs elseBody _ =>
    condition.called ++ blockUnseen thenBody ++ elifUnseen elifs ++ blockUnseen elseBody
  | .forLoop _ e body _ | .whileLoop e body _ | .withBlock e _ body _ =>
    e.called ++ blockUnseen body
  | .tryBlock body handlers elseBody finallyBody _ =>
    blockUnseen body ++ blockUnseen elseBody ++ handlerUnseen handlers ++ blockUnseen finallyBody
  | .breakLoop _ | .continueLoop _ | .pass _ | .other .. => []

def blockUnseen : List Stmt → List String
  | [] => []
  | s :: ss => s.unseen ++ blockUnseen ss

def elifUnseen : List IR.Elif → List String
  | [] => []
  | (condition, body) :: rest => condition.called ++ blockUnseen body ++ elifUnseen rest

def handlerUnseen : List Handler → List String
  | [] => []
  | (_, _, body) :: rest => blockUnseen body ++ handlerUnseen rest

end

variable (x : String)

mutual

lemma count_names (e : Expr) : e.names.count x = e.reads.count x + e.called.count x := by
  match e with
  | .absent | .literal .. | .name .. | .other .. => simp [Expr.names, Expr.reads, Expr.called]
  | .binary _ left right _ | .subscript left right _ =>
    have hl := count_names left
    have hr := count_names right
    simp only [Expr.names, Expr.reads, Expr.called, count_append]
    omega
  | .unary _ e _ | .attr e _ _ | .formatted e _ _ | .await e _ =>
    have he := count_names e
    simpa only [Expr.names, Expr.reads, Expr.called] using he
  | .call func args kwargs _ =>
    have hf := count_names func
    have ha := count_namesAll args
    have hk := count_namesNamed kwargs
    cases func with
    | name n line =>
      simp only [Expr.names, Expr.reads, Expr.called, count_append, count_nil]
      omega
    | _ =>
      simp only [Expr.names.eq_def (.call ..), Expr.reads.eq_def (.call ..),
        Expr.called.eq_def (.call ..), count_append] at hf ⊢
      omega
  | .method obj _ args kwargs _ =>
    have ho := count_names obj
    have ha := count_namesAll args
    have hk := count_namesNamed kwargs
    simp only [Expr.names, Expr.reads, Expr.called, count_append]
    omega
  | .slice a b c _ | .ifExp a b c _ =>
    have ha := count_names a
    have hb := count_names b
    have hc := count_names c
    simp only [Expr.names, Expr.reads, Expr.called, count_append]
    omega
  | .list es _ | .set es _ | .tuple es _ | .fstring es _ =>
    have he := count_namesAll es
    simpa only [Expr.names, Expr.reads, Expr.called] using he
  | .dict entries _ =>
    have he := count_namesEntries entries
    simpa only [Expr.names, Expr.reads, Expr.called] using he
  | .listComp element _ source conditions _ =>
    have he := count_names element
    have hs := count_names source
    have hc := count_namesAll conditions
    simp only [Expr.names, Expr.reads, Expr.called, count_append]
    omega

lemma count_namesAll (es : List Expr) :
    (namesAll es).count x = (readsList es).count x + (calledAll es).count x := by
  match es with
  | [] => simp [namesAll, readsList, calledAll]
  | e :: es =>
    have he := count_names e
    have hes := count_namesAll es
    simp only [namesAll, readsList, calledAll, count_append]
    omega

lemma count_namesNamed (kwargs : Table Expr) :
    (namesNamed kwargs).count x = (readsKwargs kwargs).count x + (calledNamed kwargs).count x := by
  match kwargs with
  | [] => simp [namesNamed, readsKwargs, calledNamed]
  | (_, e) :: rest =>
    have he := count_names e
    have hrest := count_namesNamed rest
    simp only [namesNamed, readsKwargs, calledNamed, count_append]
    omega

lemma count_namesEntries (entries : List (Expr × Expr)) : (namesEntries entries).count x =
      (readsEntries entries).count x + (calledEntries entries).count x := by
  match entries with
  | [] => simp [namesEntries, readsEntries, calledEntries]
  | (k, v) :: rest =>
    have hk := count_names k
    have hv := count_names v
    have hrest := count_namesEntries rest
    simp only [namesEntries, readsEntries, calledEntries, count_append]
    omega

end

@[ext]
structure Usage where
  reads : List String := []
  unseen : List String := []
  assigned : List String := []

namespace Usage

instance : Append Usage :=
  ⟨fun u v => ⟨u.reads ++ v.reads, u.unseen ++ v.unseen, u.assigned ++ v.assigned⟩⟩

variable (u v : Usage)

@[simp] lemma reads_append : (u ++ v).reads = u.reads ++ v.reads := rfl

@[simp] lemma unseen_append : (u ++ v).unseen = u.unseen ++ v.unseen := rfl

@[simp] lemma assigned_append : (u ++ v).assigned = u.assigned ++ v.assigned := rfl

end Usage

def Expr.usage (e : Expr) : Usage :=
  { reads := e.reads, unseen := e.called }

def Stmt.usage (s : Stmt) : Usage :=
  ⟨s.reads, s.unseen, s.assigned⟩

def blockUsage (body : List Stmt) : Usage :=
  ⟨blockReads body, blockUnseen body, blockAssigned body⟩

def elifUsage (elifs : List IR.Elif) : Usage :=
  ⟨elifReads elifs, elifUnseen elifs, elifAssigned elifs⟩

lemma blockUsage_append (body after : List Stmt) :
    blockUsage (body ++ after) = blockUsage body ++ blockUsage after := by
  induction body with
  | nil => rfl
  | cons s body ih =>
    have hcons (ss : List Stmt) : blockUsage (s :: ss) = s.usage ++ blockUsage ss := rfl
    rw [cons_append, hcons, hcons, ih]
    exact Usage.ext (append_assoc ..).symm (append_assoc ..).symm (append_assoc ..).symm

end IR

/-! ## Names in written code -/

/-- The names that code mentions in its expressions, those that it assigns without a declaration,
and those that it binds under another name, with the length of the list if the value is one. -/
@[ext]
structure Trace where
  mentions : List String := []
  assigned : List String := []
  renamed : List (String × Nat) := []

namespace Trace

instance : Append Trace :=
  ⟨fun s t => ⟨s.mentions ++ t.mentions, s.assigned ++ t.assigned, s.renamed ++ t.renamed⟩⟩

variable (s t : Trace)

@[simp] lemma mentions_append : (s ++ t).mentions = s.mentions ++ t.mentions := rfl

@[simp] lemma assigned_append : (s ++ t).assigned = s.assigned ++ t.assigned := rfl

@[simp] lemma renamed_append : (s ++ t).renamed = s.renamed ++ t.renamed := rfl

def ofExpr (e : Expr) : Trace :=
  { mentions := e.names }

/-- A binding of the variable `x` under a name. -/
def binding (x name : String) (length : Nat) : Trace :=
  { renamed := if name = x then [] else [(x, length)] }

lemma append_empty (t : Trace) : t ++ ({} : Trace) = t :=
  Trace.ext (append_nil _) (append_nil _) (append_nil _)

end Trace

def IR.Expr.listLength : Expr → Nat
  | .list es _ => es.length
  | _ => 0

def Head.mentions : Head → List String
  | .test condition => condition.source.names
  | .pattern _ vars => vars

namespace Code

mutual

def trace : Code → Trace
  | .line parts _ | .leave parts _ => { mentions := namesAll (parts.map Written.source) }
  | .hoist .. | .breakLoop | .continueLoop => {}
  | .declare _ source? _ name _ value =>
    let written := ((value.map Written.source).getD .absent)
    (match source? with
     | some x => .binding x name written.listLength
     | none => {}) ++ .ofExpr written
  | .unpack _ _ value => .ofExpr value.source
  | .assign name _ value => { assigned := [name] } ++ .ofExpr value.source
  | .choice branches otherwise => branchTrace branches ++ blockTrace otherwise
  | .whileLoop condition body => .ofExpr condition.source ++ blockTrace body
  | .forLoop target name items body =>
    .binding target name 0 ++ (.ofExpr items.source ++ blockTrace body)
  | .scope body _ => blockTrace body
  | .attempt call _ okBody _ errBody =>
    .ofExpr call.source ++ (blockTrace okBody ++ blockTrace errBody)

def blockTrace : List Code → Trace
  | [] => {}
  | c :: cs => c.trace ++ blockTrace cs

def branchTrace : List Branch → Trace
  | [] => {}
  | (head, body) :: branches =>
    { mentions := head.mentions } ++ blockTrace body ++ branchTrace branches

end

lemma blockTrace_append (cs ds : List Code) :
    blockTrace (cs ++ ds) = blockTrace cs ++ blockTrace ds := by
  induction cs with
  | nil => rfl
  | cons c cs ih =>
    rw [cons_append, blockTrace, blockTrace, ih]
    exact Trace.ext (append_assoc ..).symm (append_assoc ..).symm (append_assoc ..).symm

mutual

lemma trace_erase (c : Code) : c.erase.trace = c.trace := by
  match c with
  | .line parts _ | .leave parts _ =>
    rw [erase, trace, trace, map_map]
    rfl
  | .declare _ source? _ name _ value => cases value <;> rfl
  | .choice branches otherwise =>
    rw [erase, trace, trace, branchTrace_erase branches, blockTrace_erase otherwise]
  | .scope body _ => rw [erase, trace, trace, blockTrace_erase body]
  | .whileLoop _ body | .forLoop _ _ _ body =>
    rw [erase, trace, trace, blockTrace_erase body]
    rfl
  | .attempt _ _ okBody _ errBody =>
    rw [erase, trace, trace, blockTrace_erase okBody, blockTrace_erase errBody]
    rfl
  | .hoist .. | .unpack .. | .assign .. | .breakLoop | .continueLoop => rfl

lemma blockTrace_erase (cs : List Code) : blockTrace (eraseBlock cs) = blockTrace cs := by
  match cs with
  | [] => rfl
  | c :: cs => rw [eraseBlock, blockTrace, blockTrace, trace_erase c, blockTrace_erase cs]

lemma branchTrace_erase (branches : List Branch) :
    branchTrace (eraseBranches branches) = branchTrace branches := by
  match branches with
  | [] => rfl
  | (head, body) :: branches =>
    rw [eraseBranches, branchTrace, branchTrace, blockTrace_erase body, branchTrace_erase branches]
    cases head <;> rfl

end

end Code

/-! ## What names stand for -/

inductive Meaning where
  /-- Something that is not bound in the function. -/
  | outer
  /-- A value that the code keeps for itself. -/
  | own
  /-- A variable of the program. -/
  | var (x : String)
  deriving DecidableEq

abbrev Meanings := List (String × Meaning)

def Meanings.ofBinds (bs : List Binding) : Meanings :=
  bs.map fun b => (b.name, .var b.name)

/-- The error of a failed call, which has a name of its own if the program gives it none. -/
def Meanings.ofError (name : String) : String × Meaning :=
  (name, if name = Emit.errorName none then .own else .var name)

namespace Code

def meanings : Code → Meanings
  | .declare _ source? _ name _ _ => [(name, source?.elim .own .var)]
  | c => .ofBinds c.binds

mutual

/-- The names that a statement binds, for the statements after it or inside of it. -/
def bound : Code → Meanings
  | .choice branches otherwise => branchBound branches ++ blockBound otherwise
  | .whileLoop _ body | .scope body _ => blockBound body
  | .forLoop target name _ body => (name, .var target) :: blockBound body
  | .attempt _ value okBody error errBody =>
    Meanings.ofError error :: Meanings.ofBinds (successBinds value)
      ++ (blockBound okBody ++ blockBound errBody)
  | c => c.meanings

def blockBound : List Code → Meanings
  | [] => []
  | c :: cs => c.bound ++ blockBound cs

def branchBound : List Branch → Meanings
  | [] => []
  | (head, body) :: branches => .ofBinds head.binds ++ blockBound body ++ branchBound branches

end

end Code

def ownNames : List String :=
  ["_ctx", "_temp_ctx", Emit.errorName none]

/-- The name stands for the variable of that name, for a value of the code if it is a name of the
code's own, or for a variable that is assigned once, if it has an underscore in front of that
name. -/
def Meant (N : Table Nat) (b : String × Meaning) : Prop :=
  match b.2 with
  | .outer => True
  | .own => b.1 ∈ ownNames
  | .var x => x = b.1 ∨ b.1 = "_" ++ x ∧ (N.get? x).getD 0 = 1

lemma meant_ofBinds {N : Table Nat} (bs : List Binding) : ∀ b ∈ Meanings.ofBinds bs, Meant N b := by
  intro b hb
  obtain ⟨_, -, rfl⟩ := mem_map.1 hb
  exact .inl rfl

lemma meant_ofError {N : Table Nat} (name : String) : Meant N (Meanings.ofError name) := by
  unfold Meanings.ofError
  split
  · rename_i hname
    have hown : name ∈ ownNames := hname ▸ by decide
    exact hown
  · exact .inl rfl

/-! ## Written code follows the statements -/

@[ext]
structure Account where
  trace : Trace := {}
  bound : Meanings := []

namespace Account

instance : Append Account :=
  ⟨fun a b => ⟨a.trace ++ b.trace, a.bound ++ b.bound⟩⟩

lemma trace_append (a b : Account) : (a ++ b).trace = a.trace ++ b.trace := rfl

def ofExpr (e : Expr) : Account :=
  { trace := .ofExpr e }

/-- A binding of the variable `x` under a name. -/
def binding (x name : String) (length : Nat) : Account :=
  ⟨.binding x name length, [(name, .var x)]⟩

end Account

namespace Code

def account (c : Code) : Account :=
  ⟨c.trace, c.bound⟩

def blockAccount (cs : List Code) : Account :=
  ⟨blockTrace cs, blockBound cs⟩

lemma blockAccount_single (c : Code) : blockAccount [c] = c.account :=
  Account.ext (Trace.append_empty _) (append_nil _)

lemma blockAccount_append (cs ds : List Code) :
    blockAccount (cs ++ ds) = blockAccount cs ++ blockAccount ds := by
  refine Account.ext (blockTrace_append cs ds) ?_
  induction cs with
  | nil => rfl
  | cons c cs ih => exact (congrArg (c.bound ++ ·) ih).trans (append_assoc ..).symm

end Code

/-- The code of statements mentions a name at most as often as they read it or hold it unseen, and
assigns it or binds it under another name at most as often as they assign it. Another name is given
to a variable that is assigned once and not read, or to a list, which is read at least as often as
it has elements. Each name that is bound stands for what it should. -/
structure Accounts (R : NameSet) (N : Table Nat) (u : IR.Usage) (a : Account) : Prop where
  mentions : ∀ x, a.trace.mentions.count x ≤ u.reads.count x + u.unseen.count x
  assigned : ∀ x, (a.trace.renamed.map Prod.fst).count x + a.trace.assigned.count x ≤
    u.assigned.count x
  renamed : ∀ r ∈ a.trace.renamed, (N.get? r.1).getD 0 = 1 ∧
    (r.1 ∉ R ∨ a.trace.mentions.count r.1 + r.2 ≤ u.reads.count r.1 + u.unseen.count r.1)
  bound : ∀ b ∈ a.bound, Meant N b

/-- What is known says that the names `R` are read and counts the assignments as `N`. -/
structure Steady (R : NameSet) (N : Table Nat) (facts : Facts) : Prop where
  reads : facts.readVars = R
  counts : facts.assignmentCounts = N

namespace Accounts

variable {R : NameSet} {N : Table Nat} {u v : IR.Usage} {a b : Account}

lemma empty (u : Usage) : Accounts R N u {} :=
  ⟨fun _ => Nat.zero_le _, fun _ => Nat.zero_le _, nofun, nofun⟩

lemma binds {t : Trace} {bound : Meanings} (h : Accounts R N u { trace := t })
    (hbound : ∀ b ∈ bound, Meant N b) : Accounts R N u ⟨t, bound⟩ :=
  ⟨h.mentions, h.assigned, h.renamed, hbound⟩

lemma append (ha : Accounts R N u a) (hb : Accounts R N v b) : Accounts R N (u ++ v) (a ++ b) := by
  refine ⟨fun x => ?_, fun x => ?_, fun r hr => ?_, forall_mem_append.2 ⟨ha.bound, hb.bound⟩⟩
  · have h := ha.mentions x
    have h' := hb.mentions x
    simp only [Account.trace_append, Trace.mentions_append, Usage.reads_append,
      Usage.unseen_append, count_append]
    omega
  · have h := ha.assigned x
    have h' := hb.assigned x
    simp only [Account.trace_append, Trace.renamed_append, Trace.assigned_append,
      Usage.assigned_append, map_append, count_append]
    omega
  · have h := ha.mentions r.1
    have h' := hb.mentions r.1
    simp only [Account.trace_append, Trace.mentions_append, Usage.reads_append,
      Usage.unseen_append, count_append]
    rcases mem_append.1 hr with hr | hr
    · have hkept := ha.renamed r hr
      exact ⟨hkept.1, hkept.2.imp_right fun hcount => by omega⟩
    · have hkept := hb.renamed r hr
      exact ⟨hkept.1, hkept.2.imp_right fun hcount => by omega⟩

lemma mono (h : Accounts R N u a) (hreads : ∀ x, u.reads.count x + u.unseen.count x ≤
    v.reads.count x + v.unseen.count x) (hassigned : ∀ x, u.assigned.count x ≤ v.assigned.count x) :
    Accounts R N v a :=
  ⟨fun x => Nat.le_trans (h.mentions x) (hreads x),
    fun x => Nat.le_trans (h.assigned x) (hassigned x), fun r hr =>
    ⟨(h.renamed r hr).1, (h.renamed r hr).2.imp_right fun hle => Nat.le_trans hle (hreads r.1)⟩,
    h.bound⟩

lemma expr (e : Expr) : Accounts R N e.usage (.ofExpr e) :=
  ⟨fun x => Nat.le_of_eq (count_names x e), fun _ => Nat.le_refl _, nofun, nofun⟩

lemma assign (x : String) : Accounts R N { assigned := [x] } { trace := { assigned := [x] } } :=
  ⟨fun _ => Nat.le_refl _, fun _ => Nat.le_of_eq (Nat.zero_add _), nofun, nofun⟩

/-- A variable that is bound under another name is assigned once and not read. -/
lemma binding {facts : Facts} (hfacts : Steady R N facts) (x : String) (length : Nat) :
    Accounts R N { assigned := [x] } (.binding x (facts.bindingName x) length) := by
  have hname : facts.bindingName x = x ∨
      facts.bindingName x = "_" ++ x ∧ (N.get? x).getD 0 = 1 ∧ x ∉ R := by
    unfold Facts.bindingName
    split
    · exact .inl rfl
    · rename_i hcond
      rw [hfacts.counts, hfacts.reads] at hcond
      simp only [Bool.or_eq_true, not_or, bne_iff_ne, ne_eq, not_not, contains_iff_mem] at hcond
      exact .inr ⟨rfl, hcond.1.2, hcond.2⟩
  unfold Account.binding Trace.binding
  split
  · rename_i hsame
    exact (empty _).binds (forall_mem_singleton.2 (.inl hsame.symm))
  · rename_i hother
    obtain ⟨hunder, honce, hunread⟩ := hname.resolve_left hother
    refine ⟨fun _ => Nat.le_refl _, fun _ => Nat.le_refl _, fun r hr => ?_,
      forall_mem_singleton.2 (.inr ⟨hunder, honce⟩)⟩
    obtain rfl := mem_singleton.1 hr
    exact ⟨honce, .inl hunread⟩

end Accounts

namespace Steady

variable {R : NameSet} {N : Table Nat} {facts : Facts}

lemma noteType (h : Steady R N facts) (target : String) (annot : Ty) :
    Steady R N (facts.noteType target annot) := by
  unfold Facts.noteType
  split <;> exact ⟨h.reads, h.counts⟩

lemma noteAnnot (h : Steady R N facts) (target : String) (annot : Option Ty) :
    Steady R N (facts.noteAnnot target annot) := by
  cases annot with
  | some t => exact h.noteType target t
  | none => exact h

lemma noteValue (h : Steady R N facts) (target : String) (value : Expr) (annot : Option Ty) :
    Steady R N (facts.noteValue target value annot) := by
  unfold Facts.noteValue Facts.noteNativeType
  repeat' split
  all_goals exact ⟨h.reads, h.counts⟩

end Steady

namespace Outline

open Emit
open Code (account trace blockAccount blockAccount_single blockAccount_append)

variable {R : NameSet} {N : Table Nat} {facts : Facts}

/-! ### Single statements -/

lemma count_somethingVars? {e : Expr} {vars : List String} (h : e.somethingVars? = some vars)
    (x : String) : vars.count x ≤ e.reads.count x := by
  rw [somethingVars?_eq_some_iff] at h
  induction h with
  | atom => simp [Expr.reads]
  | joined _ _ _ ihleft ihright =>
    rw [count_append, Expr.reads, count_append]
    omega

lemma accounts_head (facts : Facts) (condition : Expr) : Accounts R N condition.usage
      ⟨{ mentions := (head facts condition).mentions }, .ofBinds (head facts condition).binds⟩ := by
  unfold head
  split
  · exact .expr condition
  · rename_i hvars
    refine ⟨fun x => ?_, fun _ => Nat.le_refl _, nofun, meant_ofBinds _⟩
    unfold Expr.somethingVars at hvars
    cases h : condition.somethingVars? with
    | none => exact absurd (by simp [h]) hvars
    | some found =>
      have hcount := count_somethingVars? h x
      simp only [Head.mentions, Expr.somethingVars, h, Option.getD_some]
      exact Nat.le_trans hcount (Nat.le_add_right _ _)

lemma accounts_operand {e o : Expr} (h : o.names.Sublist e.names) :
    Accounts R N e.usage (.ofExpr o) := by
  refine ⟨fun x => ?_, fun _ => Nat.le_refl _, nofun, nofun⟩
  have hcount := count_names x e
  exact Nat.le_trans (h.count_le x) (Nat.le_of_eq hcount)

lemma accounts_updateParts (target : String) (value : Expr) :
    Accounts R N value.usage (.ofExpr (updateParts target value).2) := by
  unfold updateParts
  split
  · split
    · exact accounts_operand (sublist_append_right ..)
    · exact .expr _
  · exact .expr value

lemma accounts_assign (hfacts : Steady R N facts) (target : String) (value : Expr)
    (annot : Option Ty) (declares mutable : Bool) (line : Line) :
    Accounts R N (Stmt.assign target value annot declares mutable line).usage
        (account (assign facts target value annot declares).1) ∧
      Steady R N (assign facts target value annot declares).2 := by
  have hknown := hfacts.noteValue target value annot
  unfold assign
  dsimp only
  cases declares with
  | false => exact ⟨(Accounts.assign target).append (accounts_updateParts target value), hknown⟩
  | true =>
    rw [if_pos rfl]
    split
    · exact ⟨(Accounts.assign target).append (.expr value), hknown⟩
    · refine ⟨?_, hknown.noteAnnot target annot⟩
      split
      · exact ((Accounts.binding hknown target _).append (.empty value.usage))
      · exact (Accounts.binding hknown target _).append (.expr value)

lemma accounts_attrAssign (facts : Facts) (obj : Expr) (member : String) (value : Expr)
    (annot : Option Ty) (line : Line) :
    Accounts R N (Stmt.attrAssign obj member value annot line).usage
      (attrAssign facts obj member value).account := by
  have hoperand : Accounts R N value.usage
      (.ofExpr (((fieldUpdate? member value).map Prod.snd).getD value)) := by
    unfold fieldUpdate?
    split
    · cases (arithmeticUpdate? _).filter _ with
      | none => exact .expr _
      | some sign => exact accounts_operand (sublist_append_right ..)
    · exact .expr value
  have htrace := (Accounts.expr obj).append hoperand
  rw [attrAssign, account, trace]
  simp only [Facts.use, map_cons, map_nil, namesAll, append_nil]
  exact htrace

lemma accounts_leave (facts : Facts) {value shown : Expr}
    (h : Accounts R N value.usage (.ofExpr shown)) :
    Accounts R N value.usage (leave facts value shown).account := by
  unfold leave
  split
  · exact .empty _
  · simp only [account, trace, Facts.use, map_cons, map_nil, namesAll, append_nil]
    exact h

lemma accounts_raised (error : Expr) : Accounts R N error.usage (.ofExpr (raised error)) := by
  unfold raised
  split
  · refine accounts_operand ?_
    rw [Expr.names, namesAll]
    simp
  · refine accounts_operand ?_
    rw [Expr.names, append_assoc]
    exact sublist_append_left ..
  · exact .expr error

lemma accounts_withBindings (hfacts : Steady R N facts) (resource : Expr)
    (target : Option String) :
    Accounts R N { resource.usage with assigned := (target.filter (· != "")).toList }
      (blockAccount (withBindings facts resource target)) := by
  -- a name of the code's own for the resource
  have hown {name : String} (h : name ∈ ownNames) :
      Accounts R N resource.usage ⟨.ofExpr resource, [(name, .own)]⟩ := by
    have hmeant : Meant N (name, .own) := h
    exact (Accounts.expr resource).binds (forall_mem_singleton.2 hmeant)
  unfold withBindings
  cases target.filter (· != "") with
  | none =>
    rw [blockAccount_single]
    exact hown (by decide)
  | some name =>
    dsimp only
    split
    · rw [← singleton_append, blockAccount_append, blockAccount_single,
        blockAccount_single]
      have hname := (Accounts.binding hfacts name 0).append (.expr .absent)
      exact ((hown (by decide)).append hname).mono
        (fun x => by simp [Expr.usage, Expr.reads, Expr.called]) (fun x => by simp [Expr.usage])
    · rw [blockAccount_single]
      exact (Accounts.binding hfacts name _).append (.expr resource)

lemma mem_renamed_assign {target : String} {value : Expr} {annot : Option Ty} {declares : Bool}
    {r : String × Nat} (h : r ∈ (trace (assign facts target value annot declares).1).renamed) :
    r.1 = target ∧ r.2 ≤ value.listLength := by
  unfold assign at h
  dsimp only at h
  have hassign (name sign : String) (w : Written) :
      (trace (.assign name sign w)).renamed = [] := rfl
  split at h
  · split at h
    · rw [hassign] at h
      cases h
    · rw [trace, Trace.renamed_append, mem_append] at h
      rcases h with h | h
      · dsimp only [Trace.binding] at h
        split at h
        · cases h
        · obtain rfl := mem_singleton.1 h
          refine ⟨rfl, ?_⟩
          split
          · exact Nat.zero_le _
          · exact Nat.le_refl _
      · cases h
  · rw [hassign] at h
    cases h

lemma count_pushedValues (target : String) (ss : List Stmt) (x : String) :
    (namesAll (pushedValues target ss)).count x +
        (if x = target then (pushedValues target ss).length else 0) ≤
      (blockReads (ss.take (pushedValues target ss).length)).count x +
        (blockUnseen (ss.take (pushedValues target ss).length)).count x := by
  induction ss with
  | nil => simp [pushedValues, namesAll]
  | cons s ss ih =>
    rw [pushedValues]
    split
    · rename_i value hpushed
      have hcount := count_names x value
      unfold pushed? at hpushed
      split at hpushed
      · split at hpushed
        · rename_i obj _ _ _ _ hcond
          cases hpushed
          simp only [Bool.and_eq_true, beq_iff_eq] at hcond
          rw [hcond.1]
          simp only [length_cons, take_succ_cons, blockReads, blockUnseen, namesAll,
            reads, unseen, Expr.reads, Expr.called, readsList, calledAll,
            readsKwargs, calledNamed, count_append, append_nil, nil_append,
            count_singleton]
          split at ih <;> split <;> simp_all <;> omega
        · cases hpushed
      · cases hpushed
    · simp [namesAll]

lemma accounts_filled (hfacts : Steady R N facts) {s : Stmt} {following : List Stmt}
    {fill : Filling} (h : filling? s following = some fill) (later : List Stmt) :
    Accounts R N (s.usage ++ blockUsage (following.take fill.elements.length))
        (filled facts fill later).1.account ∧ Steady R N (filled facts fill later).2 := by
  unfold filling? at h
  split at h
  · rename_i target value annot mutable line
    dsimp only at h
    split at h
    · cases h
    cases h
    have hpushed := count_pushedValues target following
    have hstart : Steady (fillingFacts facts target later).readVars N
        (fillingFacts facts target later) := by
      refine ⟨rfl, ?_⟩
      unfold fillingFacts
      split <;> exact hfacts.counts
    obtain ⟨haccounts, hsteady⟩ := accounts_assign hstart target
      (.list (pushedValues target following) line) annot true mutable line
    refine ⟨⟨fun x => ?_, fun x => ?_, fun r hr => ?_, haccounts.bound⟩, hfacts.reads, hsteady.counts⟩
    · have hmentions := haccounts.mentions x
      have hnames := count_namesAll x (pushedValues target following)
      have hx := hpushed x
      simp only [Stmt.usage, Stmt.reads, Stmt.unseen, Expr.reads, Expr.called] at hmentions
      simp only [Usage.reads_append, Usage.unseen_append, blockUsage, count_append]
      simp only [filled]
      omega
    · have hassigned := haccounts.assigned x
      rw [Usage.assigned_append, count_append]
      exact Nat.le_trans hassigned (Nat.le_add_right _ _)
    · obtain ⟨hname, hlength⟩ := mem_renamed_assign hr
      refine ⟨(haccounts.renamed r hr).1, .inr ?_⟩
      have hmentions := haccounts.mentions r.1
      have hnames := count_namesAll r.1 (pushedValues target following)
      have hx := hpushed r.1
      rw [if_pos hname] at hx
      simp only [Stmt.usage, Stmt.reads, Stmt.unseen, Expr.reads, Expr.called] at hmentions
      simp only [Usage.reads_append, Usage.unseen_append, blockUsage, count_append]
      simp only [filled, Expr.listLength] at hlength ⊢
      omega
  · cases h

/-! ### Blocks -/

lemma accounts_hoists (vars : List String) :
    Accounts R N {} (blockAccount (vars.map (.hoist · none))) := by
  induction vars with
  | nil => exact .empty _
  | cons v vars ih =>
    have hv : Meant N (v, .var v) := .inl rfl
    exact ((Accounts.empty {}).binds (forall_mem_singleton.2 hv)).append ih

/-- Statements are written, up to those of the following ones that are written with them. -/
def Writes (R : NameSet) (N : Table Nat) (ahead following : List Stmt) (o : Outline) : Prop :=
  (∃ done, ahead = done ++ following.drop o.skip ∧
    Accounts R N (blockUsage done) (blockAccount o.codes)) ∧ Steady R N o.known

lemma Writes.whole {body : List Stmt} {o : Outline} (h : Writes R N (body ++ []) [] o) :
    Accounts R N (blockUsage body) (blockAccount o.codes) ∧ Steady R N o.known := by
  obtain ⟨⟨done, hdone, haccounts⟩, hknown⟩ := h
  rw [append_nil, drop_nil, append_nil] at hdone
  exact ⟨hdone ▸ haccounts, hknown⟩

lemma accounts_attempt {first : Stmt} {found : Written × Option (String × Bool) × Facts}
    (hfacts : Steady R N facts) (h : attempt? facts first = some found) :
    Accounts R N first.usage (.ofExpr found.1.source) ∧ Steady R N found.2.2 := by
  unfold attempt? at h
  split at h
  · cases h
    refine ⟨(Accounts.expr _).mono (fun _ => Nat.le_refl _) fun _ => Nat.zero_le _, ?_⟩
    exact hfacts.noteAnnot _ _
  · cases h
    exact ⟨.expr _, hfacts⟩
  · cases h

mutual

lemma accounts_stmt {facts : Facts} (hfacts : Steady R N facts) (s : Stmt) :
    Accounts R N s.usage (blockAccount (stmt facts s).codes) ∧
      Steady R N (stmt facts s).known := by
  match s with
  | .assign target value annot declares mutable line =>
    rw [stmt, blockAccount_single]
    exact accounts_assign hfacts target value annot declares mutable line
  | .tupleUnpack targets value _ _ _ _ =>
    rw [stmt, blockAccount_single]
    refine ⟨?_, hfacts⟩
    exact ((Accounts.expr value).binds (meant_ofBinds _)).mono (fun _ => Nat.le_refl _) fun _ => Nat.zero_le _
  | .attrAssign obj member value annot line =>
    rw [stmt, blockAccount_single]
    exact ⟨accounts_attrAssign facts obj member value annot line, hfacts⟩
  | .subscriptAssign obj index value line =>
    rw [stmt, blockAccount_single]
    refine ⟨⟨fun x => ?_, fun _ => Nat.le_refl _, nofun, nofun⟩, hfacts⟩
    simp [account, trace, namesAll, usage, unseen, Facts.use]
  | .expr value line =>
    rw [stmt, blockAccount_single]
    refine ⟨?_, hfacts⟩
    simp only [account, trace, Facts.use, map_cons, map_nil, namesAll, append_nil]
    exact .expr value
  | .ret value _ =>
    rw [stmt, blockAccount_single]
    exact ⟨accounts_leave facts (.expr value), hfacts⟩
  | .raise error _ =>
    rw [stmt, blockAccount_single]
    exact ⟨accounts_leave facts (accounts_raised error), hfacts⟩
  | .ifStmt condition thenBody elifs elseBody line =>
    have hhoisted : Steady R N (facts.hoist (hoistable facts thenBody elifs elseBody)) :=
      ⟨hfacts.reads, hfacts.counts⟩
    obtain ⟨hthen, hknown⟩ := (accounts_block hhoisted [] thenBody 0).whole
    obtain ⟨helifs, hknown⟩ := accounts_elifs hknown elifs
    obtain ⟨helse, hknown⟩ := (accounts_block hknown [] elseBody 0).whole
    rw [stmt, blockAccount_append, blockAccount_single]
    exact ⟨(accounts_hoists _).append
      ((((accounts_head _ condition).append hthen).append helifs).append helse),
      hknown.reads, hknown.counts⟩
  | .whileLoop condition body _ =>
    obtain ⟨hbody, hknown⟩ := (accounts_block hfacts [] body 0).whole
    rw [stmt, blockAccount_single]
    exact ⟨(Accounts.expr condition).append hbody, hknown⟩
  | .forLoop target source body _ =>
    obtain ⟨hbody, hknown⟩ := (accounts_block hfacts [] body 0).whole
    rw [stmt, blockAccount_single]
    exact ⟨(Accounts.binding hfacts target 0).append ((Accounts.expr source).append hbody), hknown⟩
  | .withBlock resource target body _ =>
    obtain ⟨hbody, hknown⟩ := (accounts_block hfacts [] body 0).whole
    rw [stmt, blockAccount_single, account, trace, Code.bound]
    rw [← blockAccount, blockAccount_append]
    exact ⟨(accounts_withBindings hfacts resource target).append hbody, hknown⟩
  | .tryBlock body [] elseBody finallyBody line =>
    obtain ⟨hbody, hknown⟩ := (accounts_block hfacts [] body 0).whole
    obtain ⟨helse, hknown⟩ := (accounts_block hknown [] elseBody 0).whole
    obtain ⟨hfinally, hknown⟩ := (accounts_block hknown [] finallyBody 0).whole
    refine ⟨?_, hknown⟩
    have hcleanup {codes : List Code} (h : Accounts R N (blockUsage finallyBody)
        (blockAccount codes)) : Accounts R N (blockUsage finallyBody)
        (blockAccount (if finallyBody.isEmpty then [] else .line [] "" :: codes)) := by
      split
      · exact .empty _
      · exact h
    rw [stmt, blockAccount_append]
    refine ((hbody.append helse).append (hcleanup hfinally)).mono (fun x => ?_) fun x => ?_
    · simp [usage, reads, unseen, blockUsage, handlerReads, handlerUnseen]
    · simp [usage, assigned, blockUsage, handlerAssigned]
  | .tryBlock (first :: rest) ((_, bound, handler) :: others) elseBody [] line =>
    cases hattempt : attempt? facts first with
    | some found =>
      obtain ⟨call, value, known⟩ := found
      obtain ⟨hcall, hknown⟩ := accounts_attempt hfacts hattempt
      obtain ⟨⟨done, hdone, hsuccess⟩, hknown⟩ := accounts_block hknown elseBody rest 0
      obtain ⟨⟨after, hafter, helse⟩, hknown⟩ := accounts_block hknown [] elseBody _
      obtain ⟨hfailure, hknown⟩ := (accounts_block hknown [] handler 0).whole
      have husage : blockUsage done ++ blockUsage after =
          blockUsage rest ++ blockUsage elseBody := by
        rw [append_nil, drop_nil, append_nil] at hafter
        rw [drop_zero, hafter] at hdone
        rw [← blockUsage_append, ← blockUsage_append, hdone]
      simp only [stmt, hattempt]
      refine ⟨?_, hknown⟩
      have hsucceeds := hsuccess.append helse
      rw [← blockAccount_append] at hsucceeds
      have harms := forall_mem_cons.2
        ⟨meant_ofError (N := N) (errorName bound), meant_ofBinds (Code.successBinds value)⟩
      rw [blockAccount_single]
      refine ((hcall.binds harms).append (hsucceeds.append hfailure)).mono (fun x => ?_) fun x => ?_
      · rw [husage]
        simp only [usage, reads, unseen, blockUsage, handlerReads,
          handlerUnseen, blockReads, blockUnseen, Usage.reads_append,
          Usage.unseen_append, count_append]
        omega
      · rw [husage]
        simp only [usage, assigned, blockUsage, handlerAssigned, blockAssigned,
          Usage.assigned_append, count_append]
        omega
    | none =>
      simp only [stmt, hattempt]
      exact ⟨.empty _, hfacts⟩
  | .tryBlock [] (_ :: _) _ _ _ | .tryBlock (_ :: _) (_ :: _) _ (_ :: _) _ =>
    exact ⟨.empty _, hfacts⟩
  | .breakLoop _ | .continueLoop _ | .pass _ | .other .. => exact ⟨.empty _, hfacts⟩

lemma accounts_block {facts : Facts} (hfacts : Steady R N facts) (following body : List Stmt) (skip : Nat) :
    Writes R N ((body ++ following).drop skip) following (block facts following body skip) := by
  match body, skip with
  | [], _ => exact ⟨⟨[], rfl, .empty _⟩, hfacts⟩
  | _ :: rest, skip + 1 =>
    rw [block]
    exact accounts_block hfacts following rest skip
  | s :: rest, 0 =>
    cases hfill : filling? s (rest ++ following) with
    | some fill =>
      obtain ⟨hcode, hknown⟩ := accounts_filled hfacts hfill
        ((rest ++ following).drop fill.elements.length)
      obtain ⟨⟨done, hdone, hrest⟩, hknown⟩ :=
        accounts_block hknown following rest fill.elements.length
      simp only [block, hfill]
      refine ⟨⟨s :: (rest ++ following).take fill.elements.length ++ done, ?_, ?_⟩, hknown⟩
      · rw [append_assoc, ← hdone, cons_append, cons_append,
          take_append_drop, drop_zero]
      · rw [blockUsage_append]
        exact hcode.append hrest
    | none =>
      obtain ⟨hcode, hknown⟩ := accounts_stmt hfacts s
      obtain ⟨⟨done, hdone, hrest⟩, hknown⟩ := accounts_block hknown following rest 0
      simp only [block, hfill]
      refine ⟨⟨s :: done, ?_, ?_⟩, hknown⟩
      · exact congrArg (s :: ·) hdone
      · rw [blockAccount_append]
        exact hcode.append hrest

lemma accounts_elifs {facts : Facts} (hfacts : Steady R N facts) (elifs : List Elif) :
    Accounts R N (elifUsage elifs)
        ⟨Code.branchTrace (elifBranches facts elifs).1, Code.branchBound (elifBranches facts elifs).1⟩ ∧
      Steady R N (elifBranches facts elifs).2 := by
  match elifs with
  | [] => exact ⟨.empty _, hfacts⟩
  | (condition, body) :: branches =>
    obtain ⟨hbody, hknown⟩ := (accounts_block hfacts [] body 0).whole
    obtain ⟨hbranches, hknown⟩ := accounts_elifs hknown branches
    exact ⟨((accounts_head facts condition).append hbody).append hbranches, hknown⟩

end

end Outline

/-! ## The body of a function -/

/-- In the written body of a function, a variable that is bound under another name is not assigned
elsewhere. It is mentioned only if the body holds it where the search for read variables does not
look, or if the body reads it elsewhere than in the pushes that filled it. -/
theorem renamed_mentioned {params : List Param} {result : Option Ty} {inResult : Bool}
    {body : List Stmt} {e : Emitter} {codes : List Code}
    (h : (e.run (Emit.functionBody params result inResult body)).1 = .ok codes)
    {x : String} {length : Nat} (hx : (x, length) ∈ (Code.blockTrace codes).renamed) :
    x ∉ (Code.blockTrace codes).assigned ∧
      (x ∈ (Code.blockTrace codes).mentions →
        x ∈ IR.blockUnseen body ∨ length < (IR.blockReads body).count x) := by
  have hfacts : Steady (readVars body) (assignmentCounts body)
    (e.ctx.toFacts.enter params body) := ⟨rfl, rfl⟩
  obtain ⟨haccounts, -⟩ := (Outline.accounts_block hfacts [] body 0).whole
  rw [← Emit.functionBody_outline h, Code.blockAccount, Code.blockTrace_erase] at haccounts
  obtain ⟨hcount, hread⟩ := haccounts.renamed (x, length) hx
  have honce : (blockAssigned body).count x = 1 :=
    (get?_countNames (blockAssigned body) x).symm.trans hcount
  constructor
  · intro hassigned
    have hbound := haccounts.assigned x
    have hrenamed : 0 < ((Code.blockTrace codes).renamed.map Prod.fst).count x :=
      count_pos_iff.2 (mem_map.2 ⟨_, hx, rfl⟩)
    have htwice := count_pos_iff.2 hassigned
    simp only [blockUsage, honce] at hbound
    omega
  · intro hmentioned
    by_cases hunseen : x ∈ blockUnseen body
    · exact .inl hunseen
    right
    have hnone := count_eq_zero_of_not_mem hunseen
    have hpos := count_pos_iff.2 hmentioned
    rcases hread with hunread | hfilled
    · have hbound := haccounts.mentions x
      have hzero : (blockReads body).count x = 0 :=
        count_eq_zero_of_not_mem fun hmem => hunread (NameSet.mem_ofList.2 hmem)
      simp only [blockUsage] at hbound
      omega
    · simp only [blockUsage] at hfilled
      omega

/-- A list that is filled and never looked at, and a loop whose variable is not used. -/
def idleFunction : IR.Function where
  name := "idle"
  params := [{ name := "n", type := .prim .int }]
  result := none
  body :=
    [.assign "seen" (.list [] none) (some (.generic "list" [.prim .int])) true false none,
     .expr (.method (.name "seen" none) "append" [.name "n" none] [] none) none,
     .forLoop "i" (.call (.name "range" none) [.name "n" none] [] none)
       [.expr (.call (.name "print" none) [.name "n" none] [] none) none] none]

theorem renamed_mentioned_idleFunction :
    ∃ codes, (Emitter.run {} (Emit.functionBody idleFunction.params idleFunction.result false
        idleFunction.body)).1 = .ok codes ∧
      (Code.blockTrace codes).renamed = [("seen", 1), ("i", 0)] ∧
      "seen" ∉ (Code.blockTrace codes).mentions := by
  obtain ⟨codes, hcodes⟩ := Emitter.exists_ok_of_isSome
    (e := {}) (x := Emit.functionBody idleFunction.params idleFunction.result false
      idleFunction.body) (by decide +kernel)
  have hrenamed : (Code.blockTrace codes).renamed = [("seen", 1), ("i", 0)] := by
    have houtline := Emit.functionBody_outline hcodes
    rw [← Code.blockTrace_erase, houtline]
    decide
  refine ⟨codes, hcodes, hrenamed, fun hmentioned => ?_⟩
  have hx : ("seen", 1) ∈ (Code.blockTrace codes).renamed := by
    rw [hrenamed]
    exact .head _
  rcases (renamed_mentioned hcodes hx).2 hmentioned with hunseen | hread
  · exact absurd hunseen (by decide)
  · exact absurd hread (by decide)

/-- An item of a list is assigned, and nothing else is done with the list. -/
def itemFunction : IR.Function where
  name := "f"
  params := [{ name := "i", type := .prim .int }]
  result := some (.prim .int)
  body :=
    [.assign "xs" (.list [.literal (.int 1) none, .literal (.int 2) none] none)
       (some (.generic "list" [.prim .int])) true false none,
     .subscriptAssign (.name "xs" none) (.literal (.int 0) none) (.name "i" none) none,
     .ret (.name "i" none) none]

/-- The list is declared under another name than the one under which its item is assigned. -/
theorem renamed_itemFunction :
    (transpile {} { name := "item", functions := [itemFunction] }).1.toOption =
        some ("pub fn f(i: i64) -> i64 \x7b\n    let _xs: Vec<i64> = vec![1, 2];\n" ++
          "    xs[0] = i;\n    i\n\x7d\n") ∧
      ((Emitter.run {} (Emit.functionBody itemFunction.params itemFunction.result false
          itemFunction.body)).1.toOption.map fun codes =>
        decide (("xs", 2) ∈ (Code.blockTrace codes).renamed ∧
          "xs" ∈ (Code.blockTrace codes).mentions)) = some true := by
  decide +kernel

end Oxidize
