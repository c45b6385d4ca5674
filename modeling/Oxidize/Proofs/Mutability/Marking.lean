import Mathlib.Tactic.Lemma
import Oxidize.Lower.Mutability

/-!
# Which declarations are marked

Marking goes through a body from its end. At each declaration it knows which variables are changed
anywhere in the body, and it has met the declarations after this one: so it marks the last
declaration of every changed variable, as far as it looks. `Lower.blockMarked` says so for a block
before which the names `later` were met, and it holds of every body that is marked
(`Lower.blockMarked_markMutable`).
-/

namespace Oxidize.Lower

open IR (Expr Stmt)
open Names

namespace Names

variable (a b : Names)

@[simp] lemma declared_append : (a ++ b).declared = a.declared ++ b.declared :=
  rfl

@[simp] lemma unpacked_append : (a ++ b).unpacked = a.unpacked ++ b.unpacked :=
  rfl

@[simp] lemma changed_append : (a ++ b).changed = a.changed ++ b.changed :=
  rfl

lemma append_assoc (c : Names) : a ++ b ++ c = a ++ (b ++ c) := by
  show append (append a b) c = append a (append b c)
  simp [append]

structure Within : Prop where
  declared : ∀ x ∈ a.declared, x ∈ b.declared
  unpacked : ∀ x ∈ a.unpacked, x ∈ b.unpacked

lemma Within.refl : Within a a :=
  ⟨fun _ hx => hx, fun _ hx => hx⟩

lemma within_append {a b c : Names} : Within (a ++ b) c ↔ Within a c ∧ Within b c := by
  constructor
  · rintro ⟨hdeclared, hunpacked⟩
    simp only [declared_append, unpacked_append, List.forall_mem_append] at hdeclared hunpacked
    exact ⟨⟨hdeclared.1, hunpacked.1⟩, ⟨hdeclared.2, hunpacked.2⟩⟩
  · rintro ⟨ha, hb⟩
    constructor
    · simp only [declared_append, List.forall_mem_append]
      exact ⟨ha.declared, hb.declared⟩
    · simp only [unpacked_append, List.forall_mem_append]
      exact ⟨ha.unpacked, hb.unpacked⟩

end Names

/-! ## What is left to be marked -/

/-- What is left to be marked of a body with the names `all`, when the names `later` were met. -/
structure Pending.Left (all later : Names) (p : Pending) : Prop where
  assigned : ∀ x, x ∈ p.assigned ↔ x ∈ all.changed ∧ x ∈ all.declared ∧ x ∉ later.declared
  unpacked : ∀ x, x ∈ p.unpacked ↔
    x ∈ all.changed ∧ x ∈ all.unpacked ∧ x ∉ all.declared ∧ x ∉ later.unpacked

/-- Each target of an unpacked tuple is marked if it is changed, only declared by unpacking, and
not unpacked later. -/
def targetsMarked (all later : Names) : List String → List Bool → Prop
  | [], _ => True
  | target :: rest, marks =>
    (target ∈ all.changed → target ∉ all.declared → target ∉ later.unpacked → target ∉ rest →
        marks.headD false = true) ∧
      targetsMarked all later rest marks.tail

mutual

/-- The declarations of a statement that are the last ones of changed variables are marked. -/
def stmtMarked (all later : Names) : Stmt → Prop
  | .assign target _ _ declares mutable _ =>
    declares = true → target ∈ all.changed → target ∉ later.declared → mutable = true
  | .tupleUnpack targets _ _ _ mutables _ => targetsMarked all later targets mutables
  | .ifStmt _ thenBody _ elseBody _ =>
    blockMarked all (blockNames elseBody ++ later) thenBody ∧ blockMarked all later elseBody
  | .forLoop _ _ body _ | .whileLoop _ body _ | .withBlock _ _ body _ => blockMarked all later body
  | .tryBlock body handlers _ finallyBody _ =>
    blockMarked all (blockNames finallyBody ++ (handlerNames handlers ++ later)) body ∧
      handlersMarked all later handlers ∧
      blockMarked all (handlerNames handlers ++ later) finallyBody
  | _ => True

def blockMarked (all later : Names) : List Stmt → Prop
  | [] => True
  | s :: rest => stmtMarked all (blockNames rest ++ later) s ∧ blockMarked all later rest

def handlersMarked (all later : Names) : List IR.Handler → Prop
  | [] => True
  | (_, _, body) :: rest =>
    blockMarked all (handlerNames rest ++ later) body ∧ handlersMarked all later rest

end

/-! ## Marking one declaration -/

section Declarations

variable {all later : Names} {p : Pending}

lemma markAssigned_spec {target : String} (hp : p.Left all later)
    (htarget : target ∈ all.declared) :
    (markAssigned target p).2.Left all ({ declared := [target] } ++ later) ∧
      (target ∈ all.changed → target ∉ later.declared → (markAssigned target p).1 = true) := by
  have hassigned := hp.assigned target
  cases hcontains : p.assigned.contains target with
  | true =>
    have hrun : markAssigned target p =
        (true, { p with assigned := p.assigned.discard target }) := by
      show (if p.assigned.contains target then _ else _ : Mark Bool) p = _
      rw [if_pos hcontains]
      rfl
    rw [hrun]
    refine ⟨⟨fun x => ?_, hp.unpacked⟩, fun _ _ => rfl⟩
    simp only [NameSet.mem_discard, hp.assigned, declared_append, List.cons_append,
      List.nil_append, List.mem_cons, not_or]
    grind
  | false =>
    have hrun : markAssigned target p = (false, p) := by
      show (if p.assigned.contains target then _ else _ : Mark Bool) p = _
      rw [if_neg (by rw [hcontains]; exact Bool.false_ne_true)]
      rfl
    have hnot : target ∉ p.assigned := by simpa using hcontains
    rw [hrun]
    constructor
    · refine ⟨fun x => ?_, hp.unpacked⟩
      -- the variable was met before, or nothing changes it
      have hx : x = target → x ∉ p.assigned := fun heq => heq ▸ hnot
      simp only [hp.assigned, declared_append, List.cons_append, List.nil_append,
        List.mem_cons, not_or] at hx ⊢
      grind
    · intro hchanged hlater
      exact absurd (hassigned.2 ⟨hchanged, htarget, hlater⟩) hnot

/-- Marking the targets of an unpacked tuple goes from the last target to the first. -/
lemma markTargets_spec (hp : p.Left all later) (targets : List String)
    (htargets : ∀ x ∈ targets, x ∈ all.unpacked) :
    (markTargets targets p).2.Left all ({ unpacked := targets } ++ later) ∧
      targetsMarked all later targets (markTargets targets p).1 := by
  induction targets with
  | nil => exact ⟨hp, trivial⟩
  | cons target rest ih =>
    obtain ⟨htarget, hrest⟩ := List.forall_mem_cons.1 htargets
    obtain ⟨hleft, hmarked⟩ := ih hrest
    rcases hrun : markTargets rest p with ⟨marks, p'⟩
    rw [hrun] at hleft hmarked
    have hunpacked := hleft.unpacked target
    have hstep : markTargets (target :: rest) p = if p'.unpacked.contains target then
        (true :: marks, { p' with unpacked := p'.unpacked.discard target }) else
        (false :: marks, p') := by
      show (markTargets rest >>= fun _ => _ : Mark (List Bool)) p = _
      simp only [bind, StateT.bind, hrun]
      show (if p'.unpacked.contains target then _ else _ : Mark (List Bool)) p' = _
      split <;> rfl
    cases hcontains : p'.unpacked.contains target with
    | true =>
      rw [hstep, if_pos hcontains]
      refine ⟨⟨hleft.assigned, fun x => ?_⟩, fun _ _ _ _ => rfl, hmarked⟩
      simp only [NameSet.mem_discard, hleft.unpacked, unpacked_append, List.cons_append,
        List.mem_cons, List.mem_append, not_or]
      grind
    | false =>
      have hnot : target ∉ p'.unpacked := by simpa using hcontains
      rw [hstep, if_neg (by rw [hcontains]; exact Bool.false_ne_true)]
      refine ⟨⟨hleft.assigned, fun x => ?_⟩, fun hchanged hdeclared hlater hothers => ?_, hmarked⟩
      · have hx : x = target → x ∉ p'.unpacked := fun heq => heq ▸ hnot
        simp only [hleft.unpacked, unpacked_append, List.cons_append, List.mem_cons,
          List.mem_append, not_or] at hx ⊢
        grind
      · refine absurd (hunpacked.2 ⟨hchanged, htarget, hdeclared, ?_⟩) hnot
        simp [hothers, hlater]

lemma targetsMarked_of_none {targets : List String} {marks : List Bool} (hmarks : marks.any id = false)
    (h : targetsMarked all later targets marks) (others : List Bool) :
    targetsMarked all later targets others := by
  induction targets generalizing marks others with
  | nil => trivial
  | cons target rest ih =>
    obtain ⟨hfirst, hrest⟩ := h
    cases marks with
    | nil =>
      refine ⟨fun hchanged hdeclared hlater hothers => ?_, ih rfl hrest _⟩
      cases hfirst hchanged hdeclared hlater hothers
    | cons mark marks =>
      obtain ⟨hmark, hmarks⟩ : mark = false ∧ marks.any id = false := by simpa using hmarks
      refine ⟨fun hchanged hdeclared hlater hothers => ?_, ih hmarks hrest _⟩
      have hset : mark = true := hfirst hchanged hdeclared hlater hothers
      rw [hmark] at hset
      cases hset

end Declarations

/-! ## Marking a body -/

/-- What marking makes of a part of a body with the names `names`, when `later` was met. -/
structure Result {α : Type} (all later names : Names) (marked : α → Prop) (namesOf : α → Names)
    (r : α × Pending) : Prop where
  left : r.2.Left all (names ++ later)
  marked : marked r.1
  names : namesOf r.1 = names

/-- A part is marked after what stands behind it. -/
lemma Result.prepend {α β : Type} {all later first last : Names} {marked : Names → α → Prop}
    {marked' : β → Prop} {namesOf : α → Names} {namesOf' : β → Names} {r : α × Pending}
    {r' : β × Pending} (h : Result all (last ++ later) first (marked (last ++ later)) namesOf r)
    (h' : Result all later last marked' namesOf' r') : r.2.Left all (first ++ last ++ later) ∧
      (marked (namesOf' r'.1 ++ later) r.1 ∧ marked' r'.1) ∧
      namesOf r.1 ++ namesOf' r'.1 = first ++ last := by
  rw [h'.names, h.names, append_assoc]
  exact ⟨h.left, ⟨h.marked, h'.marked⟩, rfl⟩

mutual

lemma markStmt_spec {all later : Names} {p : Pending} (hp : p.Left all later) (s : Stmt)
    (hall : (stmtNames s).Within all) :
    Result all later (stmtNames s) (stmtMarked all later) stmtNames (markStmt s p) := by
  match s with
  | .assign target value annot true mutable line =>
    obtain ⟨hleft, hmark⟩ := markAssigned_spec hp (hall.declared target (by simp [stmtNames]))
    refine ⟨⟨hleft.assigned, hleft.unpacked⟩, fun _ hchanged hlater => ?_, rfl⟩
    show (mutable || (markAssigned target p).1) = true
    rw [hmark hchanged hlater, Bool.or_true]
  | .assign target value annot false mutable line =>
    exact ⟨⟨hp.assigned, hp.unpacked⟩, nofun, rfl⟩
  | .tupleUnpack targets value annots declares mutables line =>
    obtain ⟨hleft, hmarked⟩ := markTargets_spec hp targets hall.unpacked
    refine ⟨hleft, ?_, rfl⟩
    show targetsMarked all later targets
      (if (markTargets targets p).1.any id then (markTargets targets p).1 else mutables)
    cases hany : (markTargets targets p).1.any id with
    | true => exact hmarked
    | false => exact targetsMarked_of_none hany hmarked mutables
  | .ifStmt condition thenBody elifs elseBody line =>
    obtain ⟨hthen, helse⟩ := within_append.1 hall
    have hlast := markBlock_spec hp elseBody helse
    have hfirst := markBlock_spec hlast.left thenBody hthen
    obtain ⟨hleft, hmarked, hnames⟩ := hfirst.prepend hlast
    exact ⟨hleft, hmarked, hnames⟩
  | .forLoop _ _ body _ | .whileLoop _ body _ | .withBlock _ _ body _ =>
    have hbody := markBlock_spec hp body hall
    exact ⟨hbody.left, hbody.marked, hbody.names⟩
  | .tryBlock body handlers elseBody finallyBody line =>
    obtain ⟨hnames, hhandlers⟩ := within_append.1 hall
    obtain ⟨hbody, hfinally⟩ := within_append.1 hnames
    have hlast := markHandlers_spec hp handlers hhandlers
    have hsecond := markBlock_spec hlast.left finallyBody hfinally
    have hfirst := markBlock_spec hsecond.left body hbody
    refine ⟨?_, ⟨?_, hlast.marked, ?_⟩, ?_⟩
    · rw [stmtNames, append_assoc, append_assoc]
      exact hfirst.left
    · show blockMarked all (blockNames (markBlock finallyBody (markHandlers handlers p).2).1 ++
        (handlerNames (markHandlers handlers p).1 ++ later)) _
      rw [hsecond.names, hlast.names]
      exact hfirst.marked
    · show blockMarked all (handlerNames (markHandlers handlers p).1 ++ later) _
      rw [hlast.names]
      exact hsecond.marked
    · show blockNames _ ++ blockNames _ ++ handlerNames _ =
        blockNames body ++ blockNames finallyBody ++ handlerNames handlers
      rw [hfirst.names, hsecond.names, hlast.names]
  | .attrAssign .. | .subscriptAssign .. | .ret .. | .breakLoop _ | .continueLoop _ | .expr ..
  | .raise .. | .pass _ | .other .. =>
    exact ⟨⟨hp.assigned, hp.unpacked⟩, trivial, rfl⟩

lemma markBlock_spec {all later : Names} {p : Pending} (hp : p.Left all later)
    (body : List Stmt) (hall : (blockNames body).Within all) :
    Result all later (blockNames body) (blockMarked all later) blockNames (markBlock body p) := by
  match body with
  | [] => exact ⟨hp, trivial, rfl⟩
  | s :: rest =>
    obtain ⟨hs, hrest⟩ := within_append.1 hall
    have hlast := markBlock_spec hp rest hrest
    have hfirst := markStmt_spec hlast.left s hs
    obtain ⟨hleft, hmarked, hnames⟩ := hfirst.prepend hlast
    exact ⟨hleft, hmarked, hnames⟩

lemma markHandlers_spec {all later : Names} {p : Pending} (hp : p.Left all later)
    (handlers : List IR.Handler)
    (hall : (handlerNames handlers).Within all) :
    Result all later (handlerNames handlers) (handlersMarked all later) handlerNames
      (markHandlers handlers p) := by
  match handlers with
  | [] => exact ⟨hp, trivial, rfl⟩
  | (type, bound, body) :: rest =>
    obtain ⟨hbody, hrest⟩ := within_append.1 hall
    have hlast := markHandlers_spec hp rest hrest
    have hfirst := markBlock_spec hlast.left body hbody
    obtain ⟨hleft, hmarked, hnames⟩ := hfirst.prepend hlast
    exact ⟨hleft, hmarked, hnames⟩

end

/-- In a marked body the last declaration of every changed variable is marked. -/
lemma blockMarked_markMutable (body : List Stmt) :
    blockMarked (blockNames (markMutable body)) {} (markMutable body) := by
  -- at the end of the body nothing was met
  have hstart : Pending.Left (blockNames body) {}
      { assigned := (NameSet.ofList (blockNames body).changed).filter
          (blockNames body).declared.contains
        unpacked := (NameSet.ofList (blockNames body).changed).filter fun n =>
          (blockNames body).unpacked.contains n && !(blockNames body).declared.contains n } := by
    constructor
    · intro x
      simp [NameSet.mem_ofList]
    · intro x
      simp [NameSet.mem_ofList]
  have hmarked := markBlock_spec hstart body (.refl _)
  have hnames : blockNames (markMutable body) = blockNames body := hmarked.names
  rw [hnames]
  exact hmarked.marked

end Oxidize.Lower
