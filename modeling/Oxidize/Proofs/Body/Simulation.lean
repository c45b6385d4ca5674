import Mathlib.Data.List.Forall2
import Oxidize.Proofs.Body.Lockstep
import Oxidize.Proofs.Mutability.Sites
import Oxidize.Proofs.Scope.Places

/-!
# Written bodies follow their outlines

When a body is written, the written code without its texts is the outline of the body, and what is
known afterwards is what the outline says. The declarations in it are those of the sites of the
body, in this order: a site that keeps its name is written as mutable if it is marked, or if it
heeds the scan and the scan noted its variable. And near emitters write the same code, unless it
declares a variable that only one of them knows as hoisted.
-/

namespace Oxidize

open List IR Outline
open Lower (Names)

/-! ## Variables that are declared -/

namespace Code

mutual

/-- The variables that are written in another way if they count as hoisted: those that are declared,
and those that got an underscore in front of their name. -/
def fresh : Code → List String
  | .declare binder (some v) _ name _ _ => if binder = .declaration || name != v then [v] else []
  | .choice branches otherwise => branchFresh branches ++ blockFresh otherwise
  | .whileLoop _ body | .scope body _ => blockFresh body
  | .forLoop target name _ body => (if name != target then [target] else []) ++ blockFresh body
  | .attempt _ _ okBody _ errBody => blockFresh okBody ++ blockFresh errBody
  | _ => []

def blockFresh : List Code → List String
  | [] => []
  | c :: cs => c.fresh ++ blockFresh cs

def branchFresh : List Branch → List String
  | [] => []
  | (_, body) :: branches => blockFresh body ++ branchFresh branches

end

lemma blockFresh_append (cs ds : List Code) :
    blockFresh (cs ++ ds) = blockFresh cs ++ blockFresh ds := by
  induction cs with
  | nil => rfl
  | cons c cs ih => rw [cons_append, blockFresh, blockFresh, ih, append_assoc]

end Code

namespace IR

mutual

def stmtAnnots : Stmt → List Ty
  | .assign _ _ annot _ _ _ => annot.toList
  | .ifStmt _ thenBody elifs elseBody _ =>
    blockAnnots thenBody ++ elifAnnots elifs ++ blockAnnots elseBody
  | .whileLoop _ body _ | .forLoop _ _ body _ | .withBlock _ _ body _ => blockAnnots body
  | .tryBlock body handlers elseBody finallyBody _ =>
    blockAnnots body ++ handlerAnnots handlers ++ blockAnnots elseBody ++ blockAnnots finallyBody
  | _ => []

def blockAnnots : List Stmt → List Ty
  | [] => []
  | s :: rest => stmtAnnots s ++ blockAnnots rest

def elifAnnots : List IR.Elif → List Ty
  | [] => []
  | (_, body) :: branches => blockAnnots body ++ elifAnnots branches

def handlerAnnots : List IR.Handler → List Ty
  | [] => []
  | (_, _, body) :: handlers => blockAnnots body ++ handlerAnnots handlers

end

end IR

/-- The types that annotations name are among those that `W` holds of. -/
def Named (W : String → Prop) (annots : List Ty) : Prop :=
  ∀ annot ∈ annots, ∀ type ∈ Emit.typeName? annot, W type

def Spared (leaked : NameSet) (vars : List String) : Prop :=
  ∀ v ∈ vars, v ∉ leaked

lemma Named.append {W : String → Prop} {l l' : List Ty} :
    Named W (l ++ l') ↔ Named W l ∧ Named W l' :=
  forall_mem_append

lemma Spared.append {leaked : NameSet} {l l' : List String} :
    Spared leaked (l ++ l') ↔ Spared leaked l ∧ Spared leaked l' :=
  forall_mem_append

/-! ## Sites and the declarations that are written for them -/

/-- A site that keeps its name is written as mutable if it is marked, or if it heeds the scan and
its variable is noted. -/
structure Site.WrittenAs (noted : List String) (site : Site) (mark : String × Bool) : Prop where
  name : mark.1 = site.name
  isMut : site.keepsName = true →
    site.marked = true ∨ site.heeds.scan = true ∧ site.name ∈ noted → mark.2 = true

structure Follows (noted : List String) (o : Outline) (sites : Names → Option Names → List Site)
    (codes : List Code) (known : Facts) : Prop where
  erased : Code.eraseBlock codes = o.codes
  told : known = o.known
  declared : ∀ all later,
    List.Forall₂ (Site.WrittenAs noted) (sites all later) (Code.blockMarks codes)

def Code.Marks (code : Code) (target : String) (due : Prop) : Prop :=
  ∃ isMut, code.marks = [(target, isMut)] ∧ (due → isMut = true)

/-- A declaration has to be mutable: it keeps the name of the variable, and it is marked or the
variable is noted. -/
def Setting.Due (S : Setting) (facts : Facts) (dropped : List String) (target : String)
    (mutable : Bool) : Prop :=
  (facts.bindingName target == target) = true ∧
    (mutable = true ∨ target ∈ S.noted ∧ target ∉ dropped)

/-- The code has the outline and declares nothing, and nothing is learned. -/
def IsLine (facts : Facts) (outline code : Code) (known : Facts) : Prop :=
  code.erase = outline ∧ known = facts ∧ code.marks = []

variable (targets : List String) (value : Expr)

namespace Emit

open Code (eraseBlock blockMarks blockFresh blockMarks_singleton blockFresh_append eraseBlock_append
  blockMarks_append marks fresh)
variable {S : Setting} {facts : Facts} {dropped dropped' : List String}

/-! ## Assignments -/

lemma written_inStep :
    InStep S facts dropped dropped (fun w known => w.erase = facts.use value ∧ known = facts)
      (written value) := by
  unfold written
  refine .read rfl fun c hc _ => ?_
  obtain rfl := hc
  exact .lightly (expr_plain value .free) fun text => .pure ⟨rfl, rfl⟩

variable {target : String} {mutable declares : Bool} {fill : Filling} {body : List Stmt}

lemma declaredMut_of_due {c : Context} (hnoted : ∀ v ∈ S.noted, v ∉ dropped → v ∈ c.mutVars)
    (h : S.Due facts dropped target mutable) :
    declaredMut c target (facts.bindingName target) mutable = true := by
  unfold declaredMut
  rw [h.1, Bool.true_and, Bool.or_eq_true]
  exact h.2.imp_right fun hv => contains_iff_mem.2 (hnoted target hv.1 hv.2)

lemma declareLater_inStep {annot : Ty} (hW : Named S.types [annot])
    (mutable : Bool) (htarget : target ∉ S.leaked) :
    InStep S facts dropped dropped (fun code known =>
        code.erase = .declare .declaration (some target) false (facts.bindingName target) none none ∧
          known = facts.noteType target annot ∧
          code.Marks target (S.Due facts dropped target mutable))
      (declareLater target annot mutable) := by
  unfold declareLater
  refine .context (fun _ hc hnear => by simp only [hnear.bindingName fun _ => htarget, hc])
    fun c hc _ => ?_
  obtain rfl := hc
  refine .lightly (resolve_plain annot) fun type => ?_
  refine .learning (fun h => h.noteType target (hW annot (by simp))) ?_
  refine .read rfl fun _ _ hnoted => ?_
  exact .pure ⟨rfl, rfl, _, rfl, declaredMut_of_due hnoted⟩

lemma expectType_inStep (annot : Option Ty) :
    InStep S facts dropped dropped (fun _ known => known = facts) (expectType annot) := by
  unfold expectType
  split
  · exact .lightly (resolve_plain _) fun type => .change fun _ => ⟨rfl, rfl, rfl⟩
  · exact .change fun _ => ⟨rfl, rfl, rfl⟩

lemma declaredValue_inStep (annot : Option Ty) :
    InStep S facts dropped dropped (fun w known => w.erase = facts.use value ∧ known = facts)
      (declaredValue value annot) := by
  unfold declaredValue
  refine (expectType_inStep annot).bind ?_
  rintro _ _ rfl
  refine (written_inStep value).bind ?_
  rintro w _ ⟨hw, rfl⟩
  exact .changing (.pure ⟨hw, rfl⟩)

lemma noteOption_inStep (target : String) (isOption : Bool) :
    InStep S facts dropped dropped (fun _ known => known = facts) (noteOption target isOption) := by
  unfold noteOption
  split
  · exact .change fun _ => ⟨rfl, rfl, rfl⟩
  · exact .pure rfl

lemma typedDeclaration_inStep (target : String) (value : Expr) (code : String) {annot : Ty}
    (hW : Named S.types [annot]) :
    InStep S facts dropped dropped (fun _ known => known = facts.noteType target annot)
      (typedDeclaration target value code annot) := by
  unfold typedDeclaration
  refine .lightly (resolve_plain annot) fun type => ?_
  refine .learning (fun h => h.noteType target (hW annot (by simp))) ?_
  exact (noteOption_inStep _ _).bind fun _ _ h => .pure h

variable {annot : Option Ty}

lemma declare_inStep
    (hW : Named S.types annot.toList) (mutable : Bool) (htarget : target ∉ S.leaked) :
    InStep S facts dropped dropped (fun code known =>
        code.erase = .declare .declaration (some target) false (facts.bindingName target) none
            (some (facts.use value)) ∧ known = facts.noteAnnot target annot ∧
          code.Marks target (S.Due facts dropped target mutable))
      (declare target value annot mutable) := by
  unfold declare
  refine .context (fun _ hc hnear => by simp only [hnear.bindingName fun _ => htarget, hc])
    fun c hc _ => ?_
  obtain rfl := hc
  refine (declaredValue_inStep value annot).bind ?_
  rintro w _ ⟨hw, rfl⟩
  refine .read rfl fun _ _ hnoted => ?_
  rw [← hw]
  cases annot with
  | some t =>
    refine (typedDeclaration_inStep target value _ hW).bind ?_
    rintro parts _ rfl
    exact .pure ⟨rfl, rfl, _, rfl, declaredMut_of_due hnoted⟩
  | none => exact .pure ⟨rfl, rfl, _, rfl, declaredMut_of_due hnoted⟩

lemma bindingName_noteValue (facts : Facts) (target : String) (value : Expr)
    (annot : Option Ty) (name : String) :
    (facts.noteValue target value annot).bindingName name = facts.bindingName name := by
  unfold Facts.noteValue
  split
  · unfold Facts.noteNativeType
    repeat (first | rfl | split)
  · rfl

/-- An assignment is written as a declaration unless its target is declared already. -/
lemma assign_inStep {value : Expr} (hW : Named S.types annot.toList) (mutable : Bool)
    (hspared : Spared S.leaked (Outline.assign facts target value annot declares).1.fresh) :
    InStep S facts dropped dropped (fun code known =>
        code.erase = (Outline.assign facts target value annot declares).1 ∧
          known = (Outline.assign facts target value annot declares).2 ∧
          if declares && !facts.hoisted.contains target then
            code.Marks target (S.Due facts dropped target mutable) else code.marks = [])
      (assign target value annot declares mutable) := by
  unfold assign
  refine .learning (fun h => h.noteValue target value annot) ?_
  have hdue : S.Due facts dropped target mutable =
      S.Due (facts.noteValue target value annot) dropped target mutable := by
    unfold Setting.Due
    rw [bindingName_noteValue]
  rw [hdue, ← Outline.hoisted_noteValue facts target value annot]
  unfold Outline.assign at hspared ⊢
  dsimp only at hspared ⊢
  generalize facts.noteValue target value annot = facts at *
  cases declares with
  | false =>
    generalize updateParts target value = parts
    obtain ⟨sign, operand⟩ := parts
    refine (written_inStep operand).bind ?_
    rintro w _ ⟨hw, rfl⟩
    exact .pure ⟨congrArg (Code.assign target sign) hw, rfl, rfl⟩
  | true =>
    simp only [if_true, Bool.true_and] at hspared ⊢
    have htarget (hnew : ¬ facts.hoisted.contains target = true) : target ∉ S.leaked := by
      rw [if_neg hnew] at hspared
      exact hspared target (by simp [fresh])
    refine .context (fun _ hc hnear => ?_) fun c hc _ => ?_
    · rw [hnear.contains_hoisted fun hnew => htarget (by simpa using hnew), hc]
    obtain rfl := hc
    by_cases hhoisted : c.hoisted.contains target = true
    · simp only [hhoisted, if_true, Bool.not_true, Bool.false_eq_true, if_false]
      refine (written_inStep value).bind ?_
      rintro w _ ⟨hw, rfl⟩
      exact .pure ⟨congrArg (Code.assign target "=") hw, rfl, rfl⟩
    · have hnew := htarget hhoisted
      simp only [Bool.not_eq_true] at hhoisted
      simp only [hhoisted, Bool.false_eq_true, if_false, Bool.not_false, if_true]
      cases value with
      | absent =>
        cases annot with
        | some t => exact declareLater_inStep hW mutable hnew
        | none => exact declare_inStep _ hW mutable hnew
      | _ => exact declare_inStep _ hW mutable hnew

lemma map_unpackTargets (mutables : List Bool) :
    (unpackTargets targets mutables).map (fun t => (t.1, false)) = targets.map (·, false) := by
  unfold unpackTargets
  calc
    _ = (targets.zipIdx.map Prod.fst).map (·, false) := by
      rw [map_map, map_map]
      rfl
    _ = targets.map (·, false) := by rw [zipIdx_map_fst]

lemma unpackTargets_cons (target : String) (rest : List String) (marks : List Bool) :
    unpackTargets (target :: rest) marks =
      (target, marks.headD false) :: unpackTargets rest marks.tail := by
  unfold unpackTargets
  rw [zipIdx_cons', map_cons, map_map]
  cases marks <;> simp [Function.comp_def]

lemma unpackTargets_written (all : Names) (later : Option Names) (targets : List String)
    (marks : List Bool) :
    List.Forall₂ (Site.WrittenAs S.noted) (unpackSites all later targets marks)
      (unpackTargets targets marks) := by
  induction targets generalizing marks with
  | nil => exact .nil
  | cons target rest ih =>
    rw [unpackSites, unpackTargets_cons]
    refine .cons ⟨rfl, fun _ hdue => hdue.resolve_right ?_⟩ (ih marks.tail)
    rintro ⟨hheeds, -⟩
    cases hheeds

lemma tupleUnpack_inStep (annots : List (Option Ty))
    (mutables : List Bool) : InStep S facts dropped dropped (fun code known =>
        code.erase = .unpack (targets.map (·, false)) none (facts.use value) ∧ known = facts ∧
          code.marks = unpackTargets targets mutables)
      (tupleUnpack targets value annots mutables) := by
  unfold tupleUnpack
  rw [← map_unpackTargets targets mutables]
  refine (written_inStep value).bind ?_
  rintro w _ ⟨hw, rfl⟩
  rw [← hw]
  dsimp only
  split
  · exact .lightly (unpackTypes_plain targets annots) fun types => .pure ⟨rfl, rfl, rfl⟩
  · exact .pure ⟨rfl, rfl, rfl⟩

lemma attrAssign_inStep (obj : Expr) (member : String) (value : Expr) :
    InStep S facts dropped dropped (IsLine facts (Outline.attrAssign facts obj member value))
      (attrAssign obj member value) := by
  unfold attrAssign Outline.attrAssign
  refine (written_inStep obj).bind ?_
  rintro place _ ⟨hobj, rfl⟩
  split
  all_goals
    rename_i hupdate
    refine (written_inStep _).bind ?_
    rintro w _ ⟨hw, rfl⟩
    refine .pure ⟨?_, rfl, rfl⟩
    rw [hupdate, ← hobj]
    simp only [Option.map_some, Option.map_none, Option.getD_some, Option.getD_none]
    rw [← hw]
    rfl

lemma subscriptAssign_inStep (obj index value : Expr) : InStep S facts dropped dropped
      (IsLine facts (.line [facts.use obj, facts.use index, facts.use value] ""))
      (subscriptAssign obj index value) := by
  unfold subscriptAssign
  refine (written_inStep obj).bind ?_
  rintro place _ ⟨hobj, rfl⟩
  refine (written_inStep index).bind ?_
  rintro key _ ⟨hindex, rfl⟩
  refine (written_inStep value).bind ?_
  rintro w _ ⟨hw, rfl⟩
  rw [← hobj, ← hindex, ← hw]
  refine .read rfl fun c _ _ => ?_
  dsimp only
  split
  · exact .pure ⟨rfl, rfl, rfl⟩
  · exact .pure ⟨rfl, rfl, rfl⟩

lemma fillingFacts_near {f₀ f₁ : Facts} (h : f₀.Near S.leaked S.types f₁) (target : String)
    (later : List Stmt) :
    (fillingFacts f₀ target later).Near S.leaked S.types (fillingFacts f₁ target later) := by
  unfold fillingFacts
  split
  · exact h
  · exact h.congr (g := fun f => { f with readVars := f.readVars.discard target }) (fun _ => rfl)
      (fun _ => rfl) (fun _ => rfl) (fun _ _ h => h)

variable {following : List Stmt}

lemma named_of_filling {s : Stmt} (hfill : filling? s following = some fill)
    (hW : Named S.types (stmtAnnots s)) : Named S.types fill.annot.toList := by
  unfold filling? at hfill
  split at hfill
  · dsimp only at hfill
    split at hfill
    · cases hfill
    · cases hfill
      exact hW
  · cases hfill

/-- A list that is filled at once is declared with its elements, and the note about it is dropped if
the block does not change it later. -/
lemma filledList?_inStep {s : Stmt} (hfill : filling? s following = some fill)
    (hW : Named S.types (stmtAnnots s)) (hspared : Spared S.leaked
      (Outline.filled facts fill (following.drop fill.elements.length)).1.fresh) :
    InStep S facts dropped (dropped ++ drop? s following) (fun filled known =>
        ∃ code, filled = some (code, fill.elements.length) ∧
          code.erase = (Outline.filled facts fill (following.drop fill.elements.length)).1 ∧
          known = (Outline.filled facts fill (following.drop fill.elements.length)).2 ∧
          List.Forall₂ (Site.WrittenAs S.noted)
            (filledSites facts fill (following.drop fill.elements.length)) code.marks)
      (filledList? s following) := by
  unfold filledList?
  rw [hfill]
  refine .read rfl fun c hc _ => ?_
  obtain rfl := hc
  have hdrop : InStep S c.toFacts dropped (dropped ++ drop? s following)
      (fun _ known => known = c.toFacts)
      (change fun c => if blockMutates fill.target (following.drop fill.elements.length) then c
        else { c with mutVars := c.mutVars.discard fill.target }) := by
    unfold drop?
    rw [hfill]
    dsimp only
    split
    · refine .changed (fun hblind hnear hc => ⟨hblind, hc ▸ hnear, hc⟩) fun c v _ hv hkept => ?_
      exact hv (by simpa using hkept)
    · refine .changed (fun {c₀ c₁} hblind hnear hc => ⟨?_, hc ▸ hnear, hc⟩) fun c v _ hv hkept => ?_
      · exact (congrArg (fun c : Context =>
          { c with mutVars := c.mutVars.discard fill.target }) hblind :)
      · rw [mem_append, not_or] at hkept
        exact NameSet.mem_discard.2 ⟨hv hkept.1, by simpa using hkept.2⟩
  refine hdrop.bind ?_
  rintro _ _ rfl
  refine .learning (fun h => fillingFacts_near h _ _) ?_
  refine (assign_inStep (named_of_filling hfill hW) _ hspared).bind ?_
  rintro code _ ⟨hcode, rfl, hmarks⟩
  refine .learning (fun h => h.congr (g := fun f => { f with readVars := c.readVars }) (fun _ => rfl)
    (fun _ => rfl) (fun _ => rfl) (fun _ _ h => h)) ?_
  refine .pure ⟨code, rfl, hcode, rfl, ?_⟩
  rw [Outline.hoisted_fillingFacts] at hmarks
  unfold filledSites
  cases hcontains : c.hoisted.contains fill.target with
  | true =>
    rw [hcontains] at hmarks
    rw [show code.marks = [] from hmarks]
    exact .nil
  | false =>
    rw [hcontains] at hmarks
    obtain ⟨isMut, hcode, hisMut⟩ := hmarks
    rw [hcode]
    refine .cons ⟨rfl, fun hkept hdue => hisMut ⟨hkept, .inl ?_⟩⟩ .nil
    exact hdue.elim id And.left

/-! ## Parts of statements -/

lemma hoists_inStep (thenBody : List Stmt) (vars : List String) :
    InStep S facts dropped dropped (fun codes known =>
        eraseBlock codes = vars.map (.hoist · none) ∧ known = facts.hoist vars ∧
          blockMarks codes = []) (vars.mapM (hoist thenBody)) := by
  induction vars generalizing facts with
  | nil => exact .pure ⟨rfl, rfl, rfl⟩
  | cons v vars ih =>
    have hhoist : InStep S facts dropped dropped (fun code known =>
        (∃ type, code = .hoist v type) ∧ known = facts.hoist [v]) (hoist thenBody v) := by
      unfold hoist
      refine .lightly (renderedType_plain _) fun type => ?_
      exact .learning (fun h => h.hoist v) (.pure ⟨⟨type, rfl⟩, rfl⟩)
    rw [mapM_cons]
    refine hhoist.bind ?_
    rintro _ _ ⟨⟨type, rfl⟩, rfl⟩
    refine ih.bind ?_
    rintro codes _ ⟨hcodes, rfl, hmarks⟩
    exact .pure ⟨congrArg (Code.hoist v none :: ·) hcodes, rfl, hmarks⟩

lemma branchHead_inStep (condition : Expr) : InStep S facts dropped dropped
      (fun head known => head.erase = Outline.head facts condition ∧ known = facts)
      (branchHead condition) := by
  unfold branchHead Outline.head
  cases condition.somethingVars with
  | nil =>
    refine (written_inStep condition).bind ?_
    rintro w _ ⟨hw, rfl⟩
    exact .pure ⟨congrArg Head.test hw, rfl⟩
  | cons v vars => exact .pure ⟨rfl, rfl⟩

lemma ret_inStep :
    InStep S facts dropped dropped (IsLine facts (leave facts value value)) (ret value) := by
  unfold ret
  split
  · exact .pure ⟨rfl, rfl, rfl⟩
  · rename_i hvalue
    unfold leave
    have hpresent : value.isAbsent = false := by
      cases value <;> first | rfl | exact (hvalue rfl).elim
    rw [hpresent, if_neg Bool.false_ne_true]
    refine .changing ((written_inStep value).bind ?_)
    rintro w _ ⟨hw, rfl⟩
    refine .changing (.lightly (clonedField_plain value _) fun code => ?_)
    refine .read rfl fun c _ _ => .pure ⟨?_, rfl, rfl⟩
    rw [Code.erase, map_singleton, hw]

lemma raise_inStep (error : Expr) :
    InStep S facts dropped dropped (IsLine facts (leave facts error (raised error)))
      (raise error) := by
  have hshown (shown : Expr) (text : Written → String)
      (hleave : leave facts error (raised error) = .leave [facts.use shown] "") :
      InStep S facts dropped dropped
        (IsLine facts (leave facts error (raised error)))
        (do let w ← written shown; return .leave [w] (text w)) := by
    refine (written_inStep shown).bind ?_
    rintro w _ ⟨hw, rfl⟩
    refine .pure ⟨?_, rfl, rfl⟩
    rw [hleave, Code.erase, map_singleton, hw]
  unfold raise
  split
  · exact .pure ⟨rfl, rfl, rfl⟩
  · exact hshown _ _ rfl
  · exact hshown _ _ rfl
  · rename_i habsent hargs hfunc
    refine hshown _ _ ?_
    have hpresent : error.isAbsent = false := by
      cases error <;> first | rfl | exact (habsent rfl).elim
    have hraised : raised error = error := by
      unfold raised
      split <;> first | rfl | exact (hargs _ _ _ _ _ rfl).elim | exact (hfunc _ _ _ rfl).elim
    rw [leave, hpresent, if_neg Bool.false_ne_true, hraised]

lemma withBindings_outline (c : Context) (resource : Expr) (target : Option String)
    (w : Written) (hw : w.erase = c.toFacts.use resource) :
    eraseBlock (withBindings c resource target w) =
      Outline.withBindings c.toFacts resource target := by
  unfold withBindings Outline.withBindings
  rw [← hw]
  cases target.filter (· != "") with
  | none => rfl
  | some name =>
    dsimp only
    split <;> rfl

lemma blockMarks_withBindings (c : Context) (resource : Expr) (target : Option String)
    (w : Written) : blockMarks (withBindings c resource target w) = [] := by
  unfold withBindings
  split
  · dsimp only
    split <;> rfl
  · rfl

/-- The declarations at the beginning of a `with` block are the same. -/
lemma withBindings_eq {c₀ c₁ : Context} (hfacts : c₀.toFacts.Near S.leaked S.types c₁.toFacts)
    (hmut : c₁.mutVars = c₀.mutVars) (resource : Expr) (target : Option String) (w : Written)
    (hspared : Spared S.leaked (blockFresh (Outline.withBindings c₀.toFacts resource target))) :
    withBindings c₁ resource target w = withBindings c₀ resource target w := by
  unfold withBindings
  unfold Outline.withBindings at hspared
  cases htarget : target.filter (· != "") with
  | none => rfl
  | some name =>
    rw [htarget] at hspared
    have hname : c₁.bindingName name = c₀.bindingName name := by
      refine hfacts.bindingName fun hne => hspared name ?_
      dsimp only
      split <;> simp [blockFresh, fresh, hne]
    dsimp only
    rw [hname, hmut]

lemma blockFresh_hoists (vars : List String) : blockFresh (vars.map (.hoist · none)) = [] := by
  induction vars with
  | nil => rfl
  | cons v vars ih => simp only [map_cons, blockFresh, fresh, ih, append_nil]

lemma unhandled_inStep (target : Option String) :
    InStep S facts dropped dropped (fun w known => w.erase = facts.use value ∧ known = facts)
      (unhandled value target) := by
  unfold unhandled
  refine .read rfl fun before _ _ => ?_
  refine .changing ((written_inStep value).bind ?_)
  rintro w _ ⟨hw, rfl⟩
  exact .changing (.pure ⟨hw, rfl⟩)

lemma noteAttemptType_inStep (target : String) (hW : Named S.types annot.toList) :
    InStep S facts dropped dropped (fun _ known => known = facts.noteAnnot target annot)
      (noteAttemptType target annot) := by
  unfold noteAttemptType
  cases annot with
  | none => exact .pure rfl
  | some t =>
    refine .learning (fun h => h.noteType target (hW t (by simp))) ?_
    exact .lightly (resolve_plain t) fun _ => noteOption_inStep _ _

lemma attempt?_inStep {first : Stmt} (hW : Named S.types (stmtAnnots first)) :
    InStep S facts dropped dropped (fun found known => ∀ a ∈ found, Outline.attempt? facts first =
            some (a.call.erase, a.value.map (fun v => (v.1, false)), known) ∧
          ∀ later, List.Forall₂ (Site.WrittenAs S.noted)
            (attemptSites later dropped first) a.value.toList) (attempt? first) := by
  unfold attempt?
  split
  · rename_i target value annot declares mutable _
    refine .lightly (exprLeavesResult_plain value) fun leaves => ?_
    split
    · exact .pure nofun
    refine .lightly (renderedType_plain annot) fun type => ?_
    refine (unhandled_inStep value type).bind ?_
    rintro call _ ⟨hcall, rfl⟩
    refine (noteAttemptType_inStep target hW).bind ?_
    rintro _ _ rfl
    refine .read rfl fun c _ hnoted => .pure ?_
    rintro _ ⟨⟩
    rw [Outline.attempt?, hcall]
    refine ⟨rfl, fun later => .cons ⟨rfl, fun _ hdue => ?_⟩ .nil⟩
    rw [Bool.or_eq_true]
    refine hdue.imp_right ?_
    rintro ⟨hheeds, hmem⟩
    exact contains_iff_mem.2 (hnoted target hmem (by simpa using hheeds))
  · rename_i value _
    refine .lightly (exprLeavesResult_plain value) fun leaves => ?_
    split
    · refine (unhandled_inStep value none).bind ?_
      rintro call _ ⟨hcall, rfl⟩
      refine .pure ?_
      rintro _ ⟨⟩
      rw [Outline.attempt?, hcall]
      exact ⟨rfl, fun _ => .nil⟩
    · exact .pure nofun
  · exact .pure nofun

/-! ## Statements and blocks -/

lemma assignSites_written {code : Code} (h : if declares && !facts.hoisted.contains target then
        code.Marks target (S.Due facts dropped target mutable) else code.marks = [])
    (later : Option Names) : List.Forall₂ (Site.WrittenAs S.noted)
      (assignSites later facts dropped target declares mutable) code.marks := by
  unfold assignSites
  split at h
  · rename_i hdeclares
    obtain ⟨isMut, hcode, hisMut⟩ := h
    rw [if_pos hdeclares, hcode]
    refine .cons ⟨rfl, fun hkept hdue => hisMut ⟨hkept, hdue.imp_right ?_⟩⟩ .nil
    rintro ⟨hheeds, hnoted⟩
    exact ⟨hnoted, by simpa using hheeds⟩
  · rename_i hdeclares
    rw [if_neg hdeclares, h]
    exact .nil

lemma single_inStep {outline : Code} {x : Emit Code}
    (hx : InStep S facts dropped dropped (IsLine facts outline) x) :
    InStep S facts dropped (dropped ++ []) (Follows S.noted ⟨[outline], facts, 0⟩ fun _ _ => [])
      (do return [← x]) := by
  refine .dropNothing (hx.bind ?_)
  rintro code _ ⟨hcode, rfl, hmarks⟩
  refine .pure ⟨congrArg ([·]) hcode, rfl, fun _ _ => ?_⟩
  rw [blockMarks_singleton, hmarks]
  exact .nil

mutual

/-- The code of a statement follows its outline and declares its sites. -/
lemma stmtCode_inStep (s : Stmt) {facts : Facts} {dropped : List String}
    (hW : Named S.types (stmtAnnots s))
    (hspared : Spared S.leaked (blockFresh (Outline.stmt facts s).codes)) :
    InStep S facts dropped (dropped ++ stmtDrops s) (Follows S.noted (Outline.stmt facts s)
        fun all later => stmtSites all later facts dropped s) (stmtCode s) := by
  match s with
  | .assign target value annot declares mutable _ =>
    rw [stmtCode]
    rw [Outline.stmt, blockFresh, blockFresh, append_nil] at hspared
    refine .dropNothing ((assign_inStep hW mutable hspared).bind ?_)
    rintro code _ ⟨hcode, rfl, hmarks⟩
    refine .pure ⟨congrArg ([·]) hcode, rfl, fun all later => ?_⟩
    rw [blockMarks_singleton]
    exact assignSites_written hmarks later
  | .tupleUnpack targets value annots _ mutables _ =>
    rw [stmtCode]
    refine .dropNothing ((tupleUnpack_inStep targets value annots mutables).bind ?_)
    rintro code _ ⟨hcode, rfl, hmarks⟩
    refine .pure ⟨congrArg ([·]) hcode, rfl, fun all later => ?_⟩
    rw [blockMarks_singleton, hmarks]
    exact unpackTargets_written all later targets mutables
  | .attrAssign obj member value _ _ =>
    rw [stmtCode]
    exact single_inStep (attrAssign_inStep obj member value)
  | .subscriptAssign obj index value _ =>
    rw [stmtCode]
    exact single_inStep (subscriptAssign_inStep obj index value)
  | .ret value _ =>
    rw [stmtCode]
    exact single_inStep (ret_inStep value)
  | .raise error _ =>
    rw [stmtCode]
    exact single_inStep (raise_inStep error)
  | .breakLoop _ | .continueLoop _ | .pass _ | .other .. =>
    rw [stmtCode]
    exact .dropNothing (.pure ⟨rfl, rfl, fun _ _ => .nil⟩)
  | .expr value _ =>
    rw [stmtCode]
    refine .dropNothing ((written_inStep value).bind ?_)
    rintro w _ ⟨hw, rfl⟩
    refine .pure ⟨?_, rfl, fun _ _ => .nil⟩
    rw [Outline.stmt, ← hw]
    rfl
  | .ifStmt condition thenBody elifs elseBody _ =>
    rw [stmtCode]
    rw [stmtAnnots, Named.append, Named.append] at hW
    obtain ⟨⟨hthen, helifs⟩, helse⟩ := hW
    simp only [Outline.stmt, blockFresh_append, blockFresh_hoists, blockFresh, fresh,
      Code.branchFresh, append_nil, nil_append, Spared.append] at hspared
    obtain ⟨⟨hfirst, hbranches⟩, hotherwise⟩ := hspared
    rw [stmtDrops, ← append_assoc, ← append_assoc]
    refine .read rfl fun c hc _ => ?_
    obtain rfl := hc
    refine (hoists_inStep thenBody _).bind ?_
    rintro hoisted _ ⟨hlines, rfl, hmarks⟩
    refine (branchHead_inStep condition).bind ?_
    rintro head _ ⟨hhead, rfl⟩
    refine ((blockCode_inStep _ [] thenBody 0 hthen hfirst).keepingTail.withUnwrapped
      _).indented.bind ?_
    rintro first _ ⟨⟨hfirst, rfl, hfirstSites⟩, -⟩
    refine (elifCode_inStep _ elifs helifs hbranches).bind ?_
    rintro branches _ ⟨hbranches, rfl, hbranchSites⟩
    refine (blockCode_inStep _ [] elseBody 0 helse hotherwise).keepingTail.indented.bind ?_
    rintro otherwise _ ⟨⟨hotherwise, rfl, hotherSites⟩, -⟩
    refine .learning (fun h => h.congr (g := fun f => { f with
        narrowed := f.narrowed.addAll (guardedVars condition thenBody elifs elseBody) })
      (fun _ => rfl) (fun _ => rfl) (fun _ => rfl) (fun _ _ h => h)) (.pure ⟨?_, rfl, ?_⟩)
    · simp only [Outline.stmt, ← hfirst, ← hbranches, ← hotherwise, ← hlines, ← hhead,
        eraseBlock_append]
      rfl
    · intro all later
      rw [blockMarks_append, hmarks, blockMarks_singleton, stmtSites]
      exact rel_append (rel_append (hfirstSites all _) (hbranchSites all)) (hotherSites all later)
  | .whileLoop condition body _ =>
    rw [stmtCode, stmtDrops]
    simp only [Outline.stmt, blockFresh, fresh, append_nil] at hspared
    refine (written_inStep condition).bind ?_
    rintro w _ ⟨hw, rfl⟩
    refine (blockCode_inStep _ [] body 0 hW hspared).keepingTail.indented.bind ?_
    rintro r _ ⟨⟨hbody, rfl, hsites⟩, -⟩
    refine .pure ⟨?_, rfl, fun all later => ?_⟩
    · rw [Outline.stmt, ← hbody, ← hw]
      rfl
    · rw [blockMarks_singleton, marks, stmtSites]
      exact hsites all later
  | .forLoop target source body _ =>
    rw [stmtCode, stmtDrops]
    simp only [Outline.stmt, blockFresh, fresh, append_nil, Spared.append] at hspared
    obtain ⟨htarget, hspared⟩ := hspared
    refine (written_inStep source).bind ?_
    rintro items _ ⟨hitems, rfl⟩
    refine .context (fun _ hc hnear => ?_) fun c hc _ => ?_
    · rw [hnear.bindingName fun hne => htarget target (by simp [hne]), hc]
    obtain rfl := hc
    refine (blockCode_inStep _ [] body 0 hW hspared).keepingTail.indented.bind ?_
    rintro r _ ⟨⟨hbody, rfl, hsites⟩, -⟩
    refine .pure ⟨?_, rfl, fun all later => ?_⟩
    · rw [Outline.stmt, ← hbody, ← hitems]
      rfl
    · rw [blockMarks_singleton, marks, stmtSites]
      exact hsites all later
  | .withBlock resource target body _ =>
    rw [stmtCode, stmtDrops]
    simp only [Outline.stmt, blockFresh, fresh, blockFresh_append, append_nil,
      Spared.append] at hspared
    obtain ⟨hbindings, hspared⟩ := hspared
    refine (written_inStep resource).bind ?_
    rintro w _ ⟨hw, rfl⟩
    refine .context (fun {c₀ c₁} hblind hc hnear => ?_) fun c hc _ => ?_
    · have hmut : c₁.mutVars = c₀.mutVars := (congrArg Context.mutVars hblind :)
      rw [withBindings_eq (hc ▸ hnear) hmut resource target w (hc ▸ hbindings)]
    obtain rfl := hc
    refine (blockCode_inStep _ [] body 0 hW hspared).keepingTail.indented.bind ?_
    rintro r _ ⟨⟨hbody, rfl, hsites⟩, -⟩
    refine .pure ⟨?_, rfl, fun all later => ?_⟩
    · rw [Outline.stmt, ← hbody, ← withBindings_outline _ _ _ _ hw, ← eraseBlock_append]
      rfl
    · rw [blockMarks_singleton, marks, blockMarks_append, blockMarks_withBindings,
        stmtSites]
      exact hsites all later
  | .tryBlock body [] elseBody finallyBody _ =>
    rw [stmtCode]
    rw [stmtAnnots, Named.append, Named.append, Named.append] at hW
    obtain ⟨⟨⟨hbodyW, _⟩, helseW⟩, hfinalW⟩ := hW
    simp only [Outline.stmt, blockFresh, fresh, blockFresh_append, cons_append,
      Spared.append] at hspared
    obtain ⟨hbody, helse, hcleanup⟩ := hspared
    have hfinal : Spared S.leaked (blockFresh (Outline.block (Outline.block
        (Outline.block facts [] body 0).known [] elseBody 0).known [] finallyBody 0).codes) := by
      cases finallyBody with
      | nil => exact nofun
      | cons s rest =>
        rw [isEmpty_cons, if_neg Bool.false_ne_true, blockFresh, Spared.append] at hcleanup
        exact hcleanup.2
    rw [stmtDrops, ← append_assoc, ← append_assoc]
    refine (blockCode_inStep _ [] body 0 hbodyW hbody).keepingTail.indented.bind ?_
    rintro r _ ⟨⟨hbody, rfl, hsites⟩, -⟩
    refine (blockCode_inStep _ [] elseBody 0 helseW helse).keepingTail.bind ?_
    rintro more _ ⟨⟨helse, rfl, helseSites⟩, -⟩
    refine (blockCode_inStep _ [] finallyBody 0 hfinalW hfinal).keepingTail.bind ?_
    rintro final _ ⟨⟨hfinal, rfl, hfinalSites⟩, -⟩
    -- a cleanup that is left out declares nothing
    have hcleanup : blockMarks (if finallyBody.isEmpty then []
        else .line [] "// finally block" :: final.1.flatten) =
        blockMarks final.1.flatten := by
      cases finallyBody with
      | nil =>
        cases hcodes : final.1.flatten with
        | nil => rfl
        | cons =>
          rw [hcodes] at hfinal
          cases hfinal
      | cons s rest => rfl
    refine .pure ⟨?_, rfl, fun all later => ?_⟩
    · simp only [Outline.stmt, ← hbody, ← helse, ← hfinal]
      rw [cons_append, eraseBlock, eraseBlock_append]
      split <;> rfl
    · rw [cons_append, blockMarks, marks, blockMarks_append, hcleanup,
        stmtSites, append_assoc]
      exact rel_append (hsites all _) (rel_append (helseSites all none) (hfinalSites all later))
  | .tryBlock _ (_ :: _) _ (_ :: _) _ | .tryBlock [] (_ :: _) _ [] _ =>
    rw [stmtCode]
    exact .throw _
  | .tryBlock (first :: rest) ((_, bound, handler) :: handlers) elseBody [] line =>
    rw [stmtCode]
    simp only [stmtAnnots, blockAnnots, handlerAnnots, Named.append] at hW
    obtain ⟨⟨⟨⟨hfirstW, hrestW⟩, hhandlerW, _⟩, helseW⟩, _⟩ := hW
    rw [stmtDrops, ← append_assoc, ← append_assoc]
    refine (attempt?_inStep hfirstW).bind fun found known hfound => ?_
    split
    · exact .throw _
    rename_i a
    obtain ⟨hattempt, hvalue⟩ := hfound a rfl
    simp only [Outline.stmt, hattempt, blockFresh, fresh, blockFresh_append,
      append_nil, Spared.append] at hspared
    obtain ⟨⟨hsuccess, helse⟩, hhandler⟩ := hspared
    refine .read rfl fun c _ _ => ?_
    let success := Outline.block known elseBody rest 0
    let after := Outline.block success.known [] elseBody success.skip
    have hok : InStep S known dropped
        (dropped ++ blockDrops elseBody rest ++ blockDrops [] elseBody)
        (Follows S.noted ⟨success.codes ++ after.codes, after.known, 0⟩ fun all later =>
          blockSites all later known dropped elseBody rest 0 ++
            blockSites all none success.known (dropped ++ blockDrops elseBody rest)
              [] elseBody success.skip)
        (do
          let (codes, skip) ← blockCode c.inLastStmt elseBody rest 0
          let (more, _) ← blockCode c.inLastStmt [] elseBody skip
          return codes.flatten ++ more.flatten) := by
      refine (blockCode_inStep _ elseBody rest 0 hrestW hsuccess).bind ?_
      rintro ⟨codes, skip⟩ _ ⟨⟨hcodes, rfl, hsites⟩, rfl⟩
      refine (blockCode_inStep _ [] elseBody _ helseW helse).bind ?_
      rintro more _ ⟨⟨hmore, rfl, hmoreSites⟩, -⟩
      refine .pure ⟨?_, rfl, fun all later => ?_⟩
      · rw [eraseBlock_append, hmore]
        exact congrArg (· ++ after.codes) hcodes
      · rw [blockMarks_append]
        exact rel_append (hsites all later) (hmoreSites all none)
    refine hok.keepingTail.indented.indented.bind ?_
    rintro okBody _ ⟨hokBody, rfl, hokSites⟩
    refine (blockCode_inStep _ [] handler 0 hhandlerW hhandler).keepingTail.indented.indented.bind ?_
    rintro errCodes _ ⟨⟨herr, rfl, herrSites⟩, -⟩
    refine .pure ⟨?_, ?_, fun all later => ?_⟩
    · simp only [Outline.stmt, hattempt]
      rw [eraseBlock, eraseBlock, Code.erase, hokBody, herr]
    · simp only [Outline.stmt, hattempt]
    · rw [blockMarks_singleton, marks, stmtSites, hattempt]
      dsimp only
      rw [append_assoc (attemptSites _ _ _)]
      exact rel_append (rel_append (hvalue _) (hokSites all _)) (herrSites all _)

lemma blockCode_inStep (tail : Bool) (following body : List Stmt) (skip : Nat) {facts : Facts}
    {dropped : List String} (hW : Named S.types (blockAnnots body)) (hspared : Spared S.leaked
      (blockFresh (Outline.block facts following body skip).codes)) :
    InStep S facts dropped (dropped ++ blockDrops following body) (fun r known =>
        Follows S.noted (Outline.block facts following body skip)
            (fun all later => blockSites all later facts dropped following body skip)
            r.1.flatten known ∧ r.2 = (Outline.block facts following body skip).skip)
      (blockCode tail following body skip) := by
  match body, skip with
  | [], skip =>
    rw [blockCode]
    exact .dropNothing (.pure ⟨⟨rfl, rfl, fun _ _ => .nil⟩, rfl⟩)
  | s :: rest, skip + 1 =>
    rw [blockCode]
    rw [blockAnnots, Named.append] at hW
    simp only [Outline.block, blockSites] at hspared ⊢
    refine (blockCode_inStep tail following rest skip hW.2 hspared).drop fun v hv => ?_
    rw [blockDrops]
    simp only [mem_append] at hv ⊢
    exact hv.imp_right .inr
  | s :: rest, 0 =>
    rw [blockAnnots, Named.append] at hW
    obtain ⟨hfirstW, hrestW⟩ := hW
    rw [blockCode]
    simp only [Outline.block, blockSites] at hspared ⊢
    have hdrops : ∀ v, v ∈ dropped ++ drop? s (rest ++ following) ++ blockDrops following rest ∨
        v ∈ dropped ++ stmtDrops s ++ blockDrops following rest →
          v ∈ dropped ++ blockDrops following (s :: rest) := by
      intro v hv
      rw [blockDrops]
      simp only [mem_append] at hv ⊢
      grind
    cases hfilling : filling? s (rest ++ following) with
    | some fill =>
      simp only [hfilling, blockFresh, Spared.append] at hspared ⊢
      refine (filledList?_inStep hfilling hfirstW hspared.1).bind ?_
      rintro _ _ ⟨code, rfl, hcode, rfl, hmarks⟩
      refine .changing ?_
      refine ((blockCode_inStep tail following rest _ hrestW hspared.2).drop
        fun v hv => hdrops v (.inl hv)).bind ?_
      rintro r _ ⟨⟨hcodes, rfl, hsites⟩, hskip⟩
      refine .pure ⟨⟨?_, rfl, fun all later => ?_⟩, hskip⟩
      · rw [← hcode, ← hcodes]
        rfl
      · rw [flatten_cons, blockMarks_append, blockMarks_singleton]
        exact rel_append hmarks (hsites all later)
    | none =>
      have hnone : filledList? s (rest ++ following) = pure none := by
        unfold filledList?
        rw [hfilling]
      simp only [hfilling, blockFresh_append, Spared.append] at hspared ⊢
      rw [hnone, pure_bind]
      refine .changing ((stmtCode_inStep s hfirstW hspared.1).bind ?_)
      rintro codes _ ⟨hcode, rfl, hfirst⟩
      refine ((blockCode_inStep tail following rest 0 hrestW hspared.2).drop
        fun v hv => hdrops v (.inr hv)).bind ?_
      rintro r _ ⟨⟨hcodes, rfl, hsites⟩, hskip⟩
      refine .pure ⟨⟨?_, rfl, fun all later => ?_⟩, hskip⟩
      · rw [flatten_cons, eraseBlock_append, hcode, hcodes]
      · rw [flatten_cons, blockMarks_append]
        exact rel_append (hfirst all _) (hsites all later)

lemma elifCode_inStep (tail : Bool) (elifs : List Elif) {facts : Facts}
    {dropped : List String} (hW : Named S.types (elifAnnots elifs))
    (hspared : Spared S.leaked (Code.branchFresh (elifBranches facts elifs).1)) :
    InStep S facts dropped (dropped ++ elifDrops elifs) (fun branches known =>
        Code.eraseBranches branches = (elifBranches facts elifs).1 ∧
          known = (elifBranches facts elifs).2 ∧
          ∀ all, List.Forall₂ (Site.WrittenAs S.noted) (elifSites all facts dropped elifs)
            (Code.branchMarks branches)) (elifCode tail elifs) := by
  match elifs with
  | [] =>
    rw [elifCode]
    exact .dropNothing (.pure ⟨rfl, rfl, fun _ => .nil⟩)
  | (condition, body) :: others =>
    rw [elifCode]
    rw [elifAnnots, Named.append] at hW
    simp only [elifBranches, Code.branchFresh, Spared.append] at hspared
    rw [elifDrops, ← append_assoc]
    refine (branchHead_inStep condition).bind ?_
    rintro head _ ⟨hhead, rfl⟩
    refine ((blockCode_inStep tail [] body 0 hW.1 hspared.1).keepingTail.withUnwrapped
      _).indented.bind ?_
    rintro r _ ⟨⟨hbody, rfl, hsites⟩, -⟩
    refine (elifCode_inStep tail others hW.2 hspared.2).bind ?_
    rintro rest _ ⟨hothers, rfl, hotherSites⟩
    refine .pure ⟨?_, rfl, fun all => ?_⟩
    · simp only [elifBranches, ← hbody, ← hothers, ← hhead]
      rfl
    · rw [Code.branchMarks, elifSites]
      exact rel_append (hsites all none) (hotherSites all)

end

/-! ## The body of a function -/

variable {params : List Param}

lemma noteParams_inStep (hW : Named S.types (params.map (·.type))) : InStep S facts dropped dropped
      (fun _ known => known = params.foldl (fun known p => known.noteType p.name p.type) facts)
      (noteParams params) := by
  unfold noteParams
  refine .changing ?_
  induction params generalizing facts with
  | nil => exact .pure rfl
  | cons p params ih =>
    obtain ⟨htype, htypes⟩ := forall_mem_cons.1 hW
    refine InStep.bind (.changing (.learn fun h => h.noteType p.name htype)) ?_
    rintro _ _ rfl
    exact ih htypes

lemma noteOptionParams_inStep (params : List Param) :
    InStep S facts dropped dropped (fun _ known => known = facts) (noteOptionParams params) := by
  unfold noteOptionParams
  refine .changing ?_
  induction params with
  | nil => exact .pure rfl
  | cons p params ih =>
    refine InStep.bind (.lightly (isOption_plain Terms.free_elim) fun isOption =>
      noteOption_inStep p.name isOption) ?_
    rintro _ _ rfl
    exact ih

/-- The body of a function is written along its outline, and its declarations are those of its
sites. -/
lemma functionBody_inStep (result : Option Ty) (inResult : Bool)
    (hW : Named S.types (params.map (·.type) ++ blockAnnots body))
    (htyped : ∀ type ∈ facts.typeEnv.values, S.types type) (hspared : Spared S.leaked (blockFresh
      (Outline.block (facts.enter params body) [] body 0).codes)) :
    InStep S facts dropped (dropped ++ blockDrops [] body) (fun codes _ =>
        eraseBlock codes = (Outline.block (facts.enter params body) [] body 0).codes ∧
          ∀ all later, List.Forall₂ (Site.WrittenAs S.noted)
            (blockSites all later (facts.enter params body) dropped [] body 0)
            (blockMarks codes)) (functionBody params result inResult body) := by
  obtain ⟨hparams, hannots⟩ := Named.append.1 hW
  unfold functionBody
  refine .read rfl fun before hbefore _ => ?_
  refine .changing ?_
  refine .lightly (isOption_plain Terms.free_elim) fun inOption => ?_
  refine .lightly (renderedType_plain result) fun returnType => ?_
  refine .changing ?_
  refine (noteParams_inStep hparams).bind ?_
  rintro _ _ rfl
  refine (noteOptionParams_inStep params).bind ?_
  rintro _ _ rfl
  let g (f : Facts) : Facts :=
    { f with readVars := readVars body, assignmentCounts := assignmentCounts body }
  refine InStep.learning (g := g) (fun h => h.congr (g := g)
    (fun _ => rfl) (fun _ => rfl) (fun _ => rfl) (fun _ _ h => h)) ?_
  refine (blockCode_inStep true [] body 0 hannots hspared).keepingTail.indented.bind ?_
  rintro r _ ⟨⟨hcodes, rfl, hsites⟩, -⟩
  refine InStep.bind (R := fun _ _ => True) (.changed (fun {c₀ c₁} hblind hnear hc => ⟨?_, ?_, trivial⟩)
    fun _ _ _ hv hkept => hv hkept) fun _ _ _ => .pure ⟨hcodes, hsites⟩
  · exact (congrArg (givenBack before) hblind :)
  · rw [← hc] at hnear
    refine hnear.congr (g := fun f => { f with
        typeEnv := before.typeEnv, readVars := before.readVars
        assignmentCounts := before.assignmentCounts, narrowed := [] })
      (fun _ => rfl) (fun _ => rfl) (fun _ => rfl) fun f type htype => ?_
    rcases htype with hmem | hother
    · exact .inr (.inr (htyped type (hbefore ▸ hmem)))
    · exact .inr hother

lemma functionBody_outline {result : Option Ty} {inResult : Bool} {e : Emitter}
    {codes : List Code} (h : (e.run (functionBody params result inResult body)).1 = .ok codes) :
    eraseBlock codes = (Outline.block (e.ctx.toFacts.enter params body) [] body 0).codes := by
  have hstep : InStep {} e.ctx.toFacts [] _ _ (functionBody params result inResult body) :=
    functionBody_inStep result inResult (fun _ _ _ _ => trivial) (fun _ _ => trivial)
      fun _ _ => not_mem_nil
  exact (hstep.of_run nofun (Prod.ext h rfl)).1

end Emit

end Oxidize
