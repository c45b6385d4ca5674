import Mathlib.Data.Option.Basic
import Oxidize.Proofs.Body.Outline
import Oxidize.Proofs.Mutability.Changes

/-!
# Declarations of a body

The sites of a body are its declarations, in the order in which they are written, each with the mark
that it carries and with the searches that it heeds. It heeds the scan unless the note about its
variable was dropped: a list that is filled at once drops it if the block does not change the list
later. If marking notices that a variable is changed, a site of it that heeds marking is marked
(`Outline.blockSites_obeyed`).
-/

namespace Oxidize

open IR (Expr Stmt)
open Lower List Option

/-! ## Marks of written code -/

namespace Code

mutual

/-- The variables that a written statement declares, with their marks of mutability. A resource is
not declared by an assignment. -/
def marks : Code → List (String × Bool)
  | .declare .declaration source? isMut _ _ _ => source?.toList.map (·, isMut)
  | .unpack targets _ _ => targets
  | .choice branches otherwise => branchMarks branches ++ blockMarks otherwise
  | .whileLoop _ body | .forLoop _ _ _ body | .scope body _ => blockMarks body
  | .attempt _ value okBody _ errBody => value.toList ++ blockMarks okBody ++ blockMarks errBody
  | _ => []

def blockMarks : List Code → List (String × Bool)
  | [] => []
  | c :: cs => c.marks ++ blockMarks cs

def branchMarks : List Branch → List (String × Bool)
  | [] => []
  | (_, body) :: branches => blockMarks body ++ branchMarks branches

end

lemma blockMarks_append (cs ds : List Code) :
    blockMarks (cs ++ ds) = blockMarks cs ++ blockMarks ds := by
  induction cs with
  | nil => rfl
  | cons c cs ih => rw [cons_append, blockMarks, blockMarks, ih, append_assoc]

lemma blockMarks_singleton (c : Code) : blockMarks [c] = c.marks := by
  rw [blockMarks, blockMarks, append_nil]

end Code

/-! ## Sites -/

structure Site where
  name : String
  /-- Is it declared under its own name? -/
  keepsName : Bool
  marked : Bool
  heeds : Sight
  deriving DecidableEq

/-- A search that the site heeds notices that its variable is changed. -/
def Site.Noticed (changes : List Change) (site : Site) : Prop :=
  ∃ c ∈ changes, c.name = site.name ∧
    (site.heeds.marking && c.noticed.marking || site.heeds.scan && c.noticed.scan) = true

instance (changes : List Change) (site : Site) : Decidable (site.Noticed changes) :=
  inferInstanceAs (Decidable (∃ c ∈ changes, _))

namespace Outline

/-! ## Notes that are dropped -/

/-- The variable whose note is dropped where a list that is filled at once is declared. -/
def drop? (s : Stmt) (following : List Stmt) : List String :=
  match Emit.filling? s following with
  | some fill =>
    if IR.blockMutates fill.target (following.drop fill.elements.length) then [] else [fill.target]
  | none => []

mutual

/-- The variables whose notes are dropped while a statement is written. -/
def stmtDrops : Stmt → List String
  | .ifStmt _ thenBody elifs elseBody _ =>
    blockDrops [] thenBody ++ elifDrops elifs ++ blockDrops [] elseBody
  | .whileLoop _ body _ | .forLoop _ _ body _ | .withBlock _ _ body _ => blockDrops [] body
  | .tryBlock body [] elseBody finallyBody _ =>
    blockDrops [] body ++ blockDrops [] elseBody ++ blockDrops [] finallyBody
  | .tryBlock (_ :: rest) ((_, _, handler) :: _) elseBody [] _ =>
    blockDrops elseBody rest ++ blockDrops [] elseBody ++ blockDrops [] handler
  | _ => []
termination_by structural s => s

def blockDrops (following : List Stmt) : List Stmt → List String
  | [] => []
  | s :: rest => drop? s (rest ++ following) ++ stmtDrops s ++ blockDrops following rest

def elifDrops : List IR.Elif → List String
  | [] => []
  | (_, body) :: branches => blockDrops [] body ++ elifDrops branches

end

/-! ## The sites of a body -/

def assignSites (later : Option Names) (facts : Facts) (dropped : List String) (target : String)
    (declares mutable : Bool) : List Site :=
  if declares && !facts.hoisted.contains target then
    [{ name := target
       keepsName := facts.bindingName target == target
       marked := mutable
       heeds := ⟨later.any fun l => !l.declared.contains target, !dropped.contains target⟩ }]
  else []

/-- The site of a list that is filled at once. Whether the block changes the list later decides
about its mark, whatever the searches notice. -/
def filledSites (facts : Facts) (fill : Emit.Filling) (later : List Stmt) : List Site :=
  if facts.hoisted.contains fill.target then []
  else
    let changes := IR.blockMutates fill.target later
    [{ name := fill.target
       keepsName := (Emit.fillingFacts facts fill.target later).bindingName fill.target == fill.target
       marked := changes
       heeds := ⟨changes, changes⟩ }]

def unpackSites (all : Names) (later : Option Names) : List String → List Bool → List Site
  | [], _ => []
  | target :: rest, marks =>
    { name := target
      keepsName := true
      marked := marks.headD false
      heeds :=
        ⟨later.any (fun l => !all.declared.contains target && !l.unpacked.contains target)
          && !rest.contains target, false⟩ }
      :: unpackSites all later rest marks.tail

/-- The site of the fallible call that a `try` statement begins with. -/
def attemptSites (later : Option Names) (dropped : List String) : Stmt → List Site
  | .assign target _ _ declares mutable _ =>
    [{ name := target
       keepsName := true
       marked := mutable
       heeds :=
        ⟨declares && later.any fun l => !l.declared.contains target, !dropped.contains target⟩ }]
  | _ => []

mutual

/-- The sites of a statement in a body with the names `all`. Marking met the names `later` before
the statement, if it goes there, and the notes about the variables `dropped` were dropped. -/
def stmtSites (all : Names) (later : Option Names) (facts : Facts) (dropped : List String) :
    Stmt → List Site
  | .assign target _ _ declares mutable _ => assignSites later facts dropped target declares mutable
  | .tupleUnpack targets _ _ _ mutables _ => unpackSites all later targets mutables
  | .ifStmt _ thenBody elifs elseBody _ =>
    let known := facts.hoist (Emit.hoistable facts thenBody elifs elseBody)
    let first := block known [] thenBody 0
    let dropped' := dropped ++ blockDrops [] thenBody
    blockSites all (later.map (blockNames elseBody ++ ·)) known dropped [] thenBody 0
      ++ elifSites all first.known dropped' elifs
      ++ blockSites all later (elifBranches first.known elifs).2 (dropped' ++ elifDrops elifs) []
        elseBody 0
  | .whileLoop _ body _ | .forLoop _ _ body _ | .withBlock _ _ body _ =>
    blockSites all later facts dropped [] body 0
  | .tryBlock body [] elseBody finallyBody _ =>
    let inner := block facts [] body 0
    let after := block inner.known [] elseBody 0
    let dropped' := dropped ++ blockDrops [] body
    blockSites all (later.map (blockNames finallyBody ++ ·)) facts dropped [] body 0
      ++ blockSites all none inner.known dropped' [] elseBody 0
      ++ blockSites all later after.known (dropped' ++ blockDrops [] elseBody) [] finallyBody 0
  | .tryBlock (first :: rest) ((_, _, handler) :: handlers) elseBody [] _ =>
    match attempt? facts first with
    | some (_, _, known) =>
      let success := block known elseBody rest 0
      let after := block success.known [] elseBody success.skip
      let dropped' := dropped ++ blockDrops elseBody rest
      let later' := later.map fun l => blockNames handler ++ (handlerNames handlers ++ l)
      attemptSites (later'.map (blockNames rest ++ ·)) dropped first
        ++ blockSites all later' known dropped elseBody rest 0
        ++ blockSites all none success.known dropped' [] elseBody success.skip
        ++ blockSites all (later.map (handlerNames handlers ++ ·)) after.known
          (dropped' ++ blockDrops [] elseBody) [] handler 0
    | none => []
  | _ => []
termination_by structural s => s

/-- The sites of a block of which the first `skip` statements are already written. -/
def blockSites (all : Names) (later : Option Names) (facts : Facts) (dropped : List String)
    (following : List Stmt) : List Stmt → Nat → List Site
  | [], _ => []
  | _ :: rest, skip + 1 => blockSites all later facts dropped following rest skip
  | s :: rest, 0 =>
    let dropped' := dropped ++ drop? s (rest ++ following)
    match Emit.filling? s (rest ++ following) with
    | some fill =>
      let later' := (rest ++ following).drop fill.elements.length
      filledSites facts fill later'
        ++ blockSites all later (filled facts fill later').2 dropped' following rest
          fill.elements.length
    | none =>
      stmtSites all (later.map (blockNames rest ++ ·)) facts dropped s
        ++ blockSites all later (stmt facts s).known (dropped ++ stmtDrops s) following rest 0

def elifSites (all : Names) (facts : Facts) (dropped : List String) : List IR.Elif → List Site
  | [] => []
  | (_, body) :: branches =>
    blockSites all none facts dropped [] body 0
      ++ elifSites all (block facts [] body 0).known (dropped ++ blockDrops [] body) branches

end

/-! ## Sites that heed marking are marked -/

def Obeyed (all : Names) (sites : List Site) : Prop :=
  ∀ site ∈ sites, site.heeds.marking = true → site.name ∈ all.changed → site.marked = true

namespace Obeyed

variable {all : Names} {sites others : List Site}

lemma nil : Obeyed all [] :=
  nofun

lemma append (hsites : Obeyed all sites) (hothers : Obeyed all others) :
    Obeyed all (sites ++ others) :=
  forall_mem_append.2 ⟨hsites, hothers⟩

end Obeyed

variable {all : Names} {later : Option Names}

lemma assignSites_obeyed {target : String} {value : Expr} {annot : Option IR.Ty}
    {declares mutable : Bool} {line : IR.Line} (facts : Facts) (dropped : List String)
    (h : ∀ l ∈ later, stmtMarked all l (.assign target value annot declares mutable line)) :
    Obeyed all (assignSites later facts dropped target declares mutable) := by
  intro site hsite hheeds hchanged
  unfold assignSites at hsite
  split at hsite
  · rename_i hdeclares
    obtain rfl := mem_singleton.1 hsite
    obtain ⟨l, hl, hlast⟩ := (any_eq_true _ _).1 hheeds
    have hmarked := h l hl
    rw [stmtMarked] at hmarked
    exact hmarked (Bool.and_eq_true_iff.1 hdeclares).1 hchanged (by simpa using hlast)
  · cases hsite

lemma filledSites_obeyed (facts : Facts) (fill : Emit.Filling) (later : List Stmt) :
    Obeyed all (filledSites facts fill later) := by
  intro site hsite hheeds _
  unfold filledSites at hsite
  split at hsite
  · cases hsite
  · obtain rfl := mem_singleton.1 hsite
    exact hheeds

lemma unpackSites_obeyed {targets : List String} {marks : List Bool}
    (h : ∀ l ∈ later, targetsMarked all l targets marks) :
    Obeyed all (unpackSites all later targets marks) := by
  induction targets generalizing marks with
  | nil => exact .nil
  | cons target rest ih =>
    rw [unpackSites]
    intro site hsite hheeds hchanged
    rcases mem_cons.1 hsite with rfl | hsite
    · obtain ⟨hany, hrest⟩ := Bool.and_eq_true_iff.1 hheeds
      obtain ⟨l, hl, hlast⟩ := (any_eq_true _ _).1 hany
      obtain ⟨hdeclared, hunpacked⟩ := Bool.and_eq_true_iff.1 hlast
      exact (h l hl).1 hchanged (by simpa using hdeclared) (by simpa using hunpacked)
        (by simpa using hrest)
    · exact ih (fun l hl => (h l hl).2) site hsite hheeds hchanged

lemma attemptSites_obeyed {first : Stmt} (dropped : List String)
    (h : ∀ l ∈ later, stmtMarked all l first) : Obeyed all (attemptSites later dropped first) := by
  intro site hsite hheeds hchanged
  unfold attemptSites at hsite
  split at hsite
  · obtain rfl := mem_singleton.1 hsite
    obtain ⟨hdeclares, hany⟩ := Bool.and_eq_true_iff.1 hheeds
    obtain ⟨l, hl, hlast⟩ := (any_eq_true _ _).1 hany
    have hmarked := h l hl
    rw [stmtMarked] at hmarked
    exact hmarked hdeclares hchanged (by simpa using hlast)
  · cases hsite

mutual

lemma stmtSites_obeyed (later : Option Names) (facts : Facts) (dropped : List String) (s : Stmt)
    (h : ∀ l ∈ later, stmtMarked all l s) : Obeyed all (stmtSites all later facts dropped s) := by
  match s with
  | .assign .. =>
    rw [stmtSites]
    exact assignSites_obeyed facts dropped h
  | .tupleUnpack .. =>
    rw [stmtSites]
    exact unpackSites_obeyed fun l hl => by simpa [stmtMarked] using h l hl
  | .ifStmt _ thenBody elifs elseBody _ =>
    simp only [stmtMarked] at h
    rw [stmtSites]
    refine ((blockSites_obeyed _ _ _ _ thenBody 0 ?_).append (elifSites_obeyed _ _ elifs)).append
      (blockSites_obeyed _ _ _ _ elseBody 0 ?_)
    · exact forall_mem_map.2 fun l hl => (h l hl).1
    · exact fun l hl => (h l hl).2
  | .whileLoop _ body _ | .forLoop _ _ body _ | .withBlock _ _ body _ =>
    simp only [stmtMarked] at h
    rw [stmtSites]
    exact blockSites_obeyed _ _ _ _ body 0 h
  | .tryBlock body [] elseBody finallyBody _ =>
    simp only [stmtMarked] at h
    rw [stmtSites]
    refine ((blockSites_obeyed _ _ _ _ body 0 ?_).append
      (blockSites_obeyed none _ _ _ elseBody 0 nofun)).append
      (blockSites_obeyed _ _ _ _ finallyBody 0 ?_)
    · exact forall_mem_map.2 fun l hl => (h l hl).1
    · exact fun l hl => (h l hl).2.2
  | .tryBlock (first :: rest) ((type, bound, handler) :: handlers) elseBody [] line =>
    simp only [stmtMarked, handlersMarked] at h
    rw [stmtSites]
    cases attempt? facts first with
    | none => exact .nil
    | some found =>
      -- nothing follows the handlers, and marking met all of them before the body
      have hbody : ∀ l ∈ later.map (fun l => blockNames handler ++ (handlerNames handlers ++ l)),
          blockMarked all l (first :: rest) := by
        refine forall_mem_map.2 fun l hl => ?_
        have hmarked := (h l hl).1
        rwa [handlerNames, Names.append_assoc] at hmarked
      simp only [blockMarked] at hbody
      refine (((attemptSites_obeyed dropped ?_).append (blockSites_obeyed _ _ _ _ rest 0 ?_)).append
        (blockSites_obeyed none _ _ _ elseBody _ nofun)).append
        (blockSites_obeyed _ _ _ _ handler 0 ?_)
      · exact forall_mem_map.2 fun l hl => (hbody l hl).1
      · exact fun l hl => (hbody l hl).2
      · exact forall_mem_map.2 fun l hl => (h l hl).2.1.1
  | .tryBlock [] (_ :: _) _ _ _ | .tryBlock (_ :: _) (_ :: _) _ (_ :: _) _ =>
    rw [stmtSites]
    · exact .nil
    all_goals exact nofun
  | .attrAssign .. | .subscriptAssign .. | .ret .. | .breakLoop _ | .continueLoop _ | .expr ..
  | .raise .. | .pass _ | .other .. => exact .nil

/-- If marking notices that a variable is changed, a site of it that heeds marking is marked. -/
lemma blockSites_obeyed (later : Option Names) (facts : Facts) (dropped : List String)
    (following body : List Stmt) (skip : Nat) (h : ∀ l ∈ later, blockMarked all l body) :
    Obeyed all (blockSites all later facts dropped following body skip) := by
  match body, skip with
  | [], _ => exact .nil
  | _ :: rest, skip + 1 =>
    simp only [blockMarked] at h
    rw [blockSites]
    exact blockSites_obeyed later facts dropped following rest skip fun l hl => (h l hl).2
  | s :: rest, 0 =>
    simp only [blockMarked] at h
    rw [blockSites]
    cases Emit.filling? s (rest ++ following) with
    | some fill =>
      exact (filledSites_obeyed _ _ _).append
        (blockSites_obeyed _ _ _ _ rest _ fun l hl => (h l hl).2)
    | none =>
      refine (stmtSites_obeyed _ _ _ s ?_).append
        (blockSites_obeyed _ _ _ _ rest 0 fun l hl => (h l hl).2)
      exact forall_mem_map.2 fun l hl => (h l hl).1

lemma elifSites_obeyed (facts : Facts) (dropped : List String)
    (elifs : List IR.Elif) : Obeyed all (elifSites all facts dropped elifs) := by
  match elifs with
  | [] => exact .nil
  | (_, body) :: branches =>
    rw [elifSites]
    exact (blockSites_obeyed none _ _ _ body 0 nofun).append (elifSites_obeyed _ _ branches)

end

end Outline

end Oxidize
