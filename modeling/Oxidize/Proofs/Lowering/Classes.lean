import Oxidize.Proofs.Lowering.Taken

/-!
# What becomes of the members of a class

A method takes its receiver as mutable if it is seen to change it. Only the fields of the receiver
are looked at, and the items of a field that is assigned. So a change further inside is not seen,
nor one by an assignment with a type hint or through another method (`receiver_mut_iff`).
-/

namespace Oxidize

open List

namespace Syntax

/-- A step from an object to a part of it. -/
inductive Access where
  | field
  | item
  deriving DecidableEq

/-- The steps that lead from the receiver of a method to a place, last step first. -/
def Expr.fromSelf? : Expr → Option (List Access)
  | .name id _ _ => if id == "self" then some [] else none
  | .attribute obj _ _ _ => obj.fromSelf?.map (.field :: ·)
  | .subscript obj _ _ _ => obj.fromSelf?.map (.item :: ·)
  | _ => none

/-- How a method changes its receiver: the place that some steps lead to is assigned, plainly or
with a type hint, updated, or changed by a call. -/
inductive Change where
  | assigned (steps : List Access)
  | hinted (steps : List Access)
  | updated (steps : List Access)
  | called (steps : List Access)

def Change.isSeen : Change → Bool
  | .assigned steps | .updated steps => steps == [.field] || steps == [.item, .field]
  | .called steps => steps == [.field]
  | .hinted _ => false

def Stmt.selfAssignments : Stmt → List Change
  | .assign targets _ _ => (targets.filterMap Expr.fromSelf?).map .assigned
  | .annAssign target _ _ _ => target.fromSelf?.toList.map .hinted
  | .augAssign target _ _ _ => target.fromSelf?.toList.map .updated
  | _ => []

/-- The change of the receiver by a call: of a part of it by a method that changes its object, or of
the receiver itself by one of the methods in `changing`. -/
def Expr.selfCalls (changing : List String) : Expr → List Change
  | .call (.attribute obj method _ _) _ _ _ =>
    (obj.fromSelf?.filter fun steps =>
      (if steps.isEmpty then changing else changingMethods).contains method).toList.map .called
  | _ => []

/-- The changes of the receiver in a statement, at any depth. -/
def Stmt.selfChanges (changing : List String) (s : Stmt) : List Change :=
  s.parts.flatMap fun part => part.selfAssignments ++ part.exprs.flatMap (Expr.selfCalls changing)

lemma isSelfField_iff {e : Expr} : e.isSelfField = true ↔ e.fromSelf? = some [.field] := by
  cases e with
  | «attribute» obj attr use line =>
    have hobj : obj.fromSelf? = some [] ↔ obj.name? = some "self" := by
      cases obj <;> simp [Expr.fromSelf?, Expr.name?]
    cases obj <;> simp_all [Expr.isSelfField, Expr.fromSelf?, Expr.name?]
  | _ => simp [Expr.isSelfField, Expr.fromSelf?]

lemma isSelfPlace_iff {e : Expr} : e.isSelfPlace = true ↔
    e.fromSelf? = some [.field] ∨ e.fromSelf? = some [.item, .field] := by
  cases e with
  | subscript obj index use line => simp [Expr.isSelfPlace, isSelfField_iff, Expr.fromSelf?]
  | _ => simp [Expr.isSelfPlace, isSelfField_iff, Expr.fromSelf?]

lemma assignsSelf_eq (s : Stmt) : s.assignsSelf = s.selfAssignments.any Change.isSeen := by
  have hplace (e : Expr) : e.isSelfPlace = e.fromSelf?.any fun steps =>
      steps == [.field] || steps == [.item, .field] := by
    rw [Bool.eq_iff_iff, isSelfPlace_iff]
    cases e.fromSelf? <;> simp
  cases s with
  | assign targets value line =>
    simp only [Stmt.assignsSelf, Stmt.selfAssignments, any_map, any_filterMap]
    refine congrArg targets.any (funext fun target => ?_)
    rw [hplace]
    cases target.fromSelf? <;> rfl
  | augAssign target op value line =>
    simp only [Stmt.assignsSelf, Stmt.selfAssignments, hplace]
    cases target.fromSelf? <;> simp [Change.isSeen]
  | annAssign target hint value line => simp [Stmt.assignsSelf, Stmt.selfAssignments, Change.isSeen]
  | _ => rfl

lemma changesSelf_eq (changing : List String) (e : Expr) :
    e.changesSelf = (e.selfCalls changing).any Change.isSeen := by
  unfold Expr.changesSelf
  split
  · rename_i obj method _ _ _ _ _
    rw [Bool.eq_iff_iff, Bool.and_eq_true, isSelfField_iff, Expr.selfCalls]
    rcases obj.fromSelf? with _ | _ | ⟨step, steps⟩
    · simp
    · by_cases h : method ∈ changing <;> simp [Option.filter, Change.isSeen, h]
    · by_cases h : method ∈ changingMethods <;> simp [Option.filter, Change.isSeen, h]
  · rename_i hcall
    rw [Expr.selfCalls]
    · rfl
    · exact hcall

/-- A statement is seen to change the receiver exactly if one of its changes is seen. -/
lemma modifiesSelf_eq (changing : List String) (s : Stmt) :
    s.modifiesSelf = (s.selfChanges changing).any Change.isSeen := by
  unfold Stmt.modifiesSelf Stmt.selfChanges
  simp only [any_flatMap, any_append, assignsSelf_eq, ← changesSelf_eq changing]

end Syntax

variable {f : SourceFile} {filename : Option String} {m : IR.Module}

/-- A method of a class that was read from a source file takes its receiver as mutable exactly if it
is no constructor and not static and one of its changes of the receiver is seen, whichever methods
change the receiver. -/
theorem receiver_mut_iff (hm : f.parse filename = .ok m) : ∃ body, f.tree = .ok body ∧
      Forall₂ (fun members c => Forall₂ (fun d g => ∀ changing,
          Emit.receiver g = ["&mut self"] ↔ d.name ≠ "__init__" ∧ d.isStatic = false ∧
            ∃ change ∈ d.stmt.selfChanges changing, change.isSeen = true)
        (Syntax.definitions members) c.methods) (Syntax.classBodies body) m.classes := by
  obtain ⟨body, htree, -, hclasses⟩ := yields_of_parse hm
  refine ⟨body, htree, hclasses.imp fun members c hc => hc.methods.imp fun d g hg changing => ?_⟩
  unfold Emit.receiver
  rw [hg.yields.name_eq, hg.isMethod, hg.isStatic, hg.modifiesSelf,
    Syntax.modifiesSelf_eq changing, ← any_eq_true]
  by_cases hname : d.name = "__init__"
  · simp [hname]
  · cases d.isStatic <;> simp [hname]

/-- A class with a method that assigns to a place. -/
def growSource (place : Syntax.Expr) : SourceFile where
  text := "class Tree: ..."
  tree := .ok [.classDef "Tree" [] [] [.functionDef false "grow"
    (.mk [] [.mk "self" none 1] none [] [] none []) [.assign [place] (.constant (.int 1) none 1) 1]
    [] none 1] [] 1]

def ownField (name : String) : Syntax.Expr :=
  .attribute (.name "self" .load 1) name .load 1

theorem receiver_mut_height : ∃ m, (growSource (ownField "height")).parse none = .ok m ∧
    ∃ c ∈ m.classes, ∃ g ∈ c.methods, Emit.receiver g = ["&mut self"] := by
  refine ⟨_, rfl, _, .head _, _, .head _, ?_⟩
  obtain ⟨body, htree, hclasses⟩ := @receiver_mut_iff (growSource (ownField "height")) none _ rfl
  cases htree
  obtain ⟨hmethods, -⟩ := forall₂_cons.1 hclasses
  obtain ⟨hgrow, -⟩ := forall₂_cons.1 hmethods
  exact (hgrow []).2 (by decide)

/-- A change of a field of a field is not seen. -/
theorem receiver_fixed_trunk : ((growSource (.attribute (ownField "trunk") "height" .load 1)).parse
    none).toOption.map (fun m => m.classes.map (·.methods.map Emit.receiver)) = some [[["&self"]]] := by
  decide

end Oxidize
