import Mathlib.Data.List.Forall2
import Mathlib.Data.List.ReduceOption
import Oxidize.Transpile
import Oxidize.Proofs.Lowering.Steps

/-!
# Functions that are taken over from a source file

Every function and method of a module that was read from a source file was taken over by the same
steps, whichever item it belongs to, and in the order of the definitions (`yields_of_parse`). So it
carries only the attributes that the source gives, and the declarations of its body are marked
(`taken_of_parse`).
-/

namespace Oxidize

open IR (Function Stmt)
open List

variable {d : FunctionDef}

structure IR.Function.Taken (f : Function) : Prop where
  /-- It carries only the attributes that the source gives. -/
  decoration : f.decoration = none
  body : ∃ statements, f.body = Lower.markMutable statements

structure IR.Class.Taken (c : IR.Class) : Prop where
  /-- It carries only the attributes that the source gives. -/
  decoration : c.decoration = none
  methods : ∀ f ∈ c.methods, f.Taken

/-- The definitions among the statements of a module or of a class. -/
def Syntax.definitions (body : List Syntax.Stmt) : List Lower.FunctionDef :=
  (splitDoc body).2.filterMap Lower.FunctionDef.ofStmt?

def Syntax.Stmt.classBody? : Syntax.Stmt → Option (List Syntax.Stmt)
  | .classDef _ _ _ body _ _ => some body
  | _ => none

def Syntax.classBodies (body : List Syntax.Stmt) : List (List Syntax.Stmt) :=
  (splitDoc body).2.filterMap Syntax.Stmt.classBody?

namespace Lower

variable {α β : Type} {R : α → β → Prop}

lemma forall_mem_of_forall₂ {P : β → Prop} {l : List α}
    {l' : List β} (h : Forall₂ R l l') (hP : ∀ a b, R a b → P b) : ∀ b ∈ l', P b := by
  induction h with
  | nil => exact nofun
  | cons hab _ ih => exact forall_mem_cons.2 ⟨hP _ _ hab, ih⟩

lemma Gives.inScope {α : Type} {P : α → Prop} {x : Lower α} (hx : Gives P x) :
    Gives P (inScope x) := by
  unfold Lower.inScope
  refine .after fun _ => ?_
  refine hx.bind fun a ha => ?_
  exact .after fun _ => .pure ha

lemma Gives.listMapM {f : α → Lower β} {l : List α}
    (h : ∀ a ∈ l, Gives (R a) (f a)) : Gives (Forall₂ R l) (l.mapM f) := by
  induction l with
  | nil => exact .pure .nil
  | cons a l ih =>
    rw [mapM_cons]
    refine (h a (by simp)).bind fun b hb => ?_
    refine (ih fun a ha => h a (by simp [ha])).bind fun bs hbs => ?_
    exact .pure (.cons hb hbs)

lemma lower_taken (lines : List String) (d : FunctionDef) :
    Gives (fun f => f.Taken ∧ f.name = d.name) (d.lower lines) := by
  unfold FunctionDef.lower
  refine .inScope ?_
  refine .after fun attributes => ?_
  refine .after fun params => ?_
  refine .after fun result => ?_
  exact .after fun body => .pure ⟨⟨rfl, body, rfl⟩, rfl⟩

/-- The statement that defines the function. -/
def FunctionDef.stmt (d : FunctionDef) : Syntax.Stmt :=
  .functionDef d.isAsync d.name d.params d.body d.decorators d.returns d.line

lemma eq_stmt {s : Syntax.Stmt} (h : FunctionDef.ofStmt? s = some d) : s = d.stmt := by
  cases s <;> cases h
  rfl

/-- Lowering the definition gives the function, up to what makes it a method. -/
def FunctionDef.Yields (lines : List String) (d : FunctionDef) (f : Function) : Prop :=
  ∃ s g s', (d.lower lines).run s = .ok (g, s') ∧
    f = { g with isMethod := f.isMethod, isStatic := f.isStatic, modifiesSelf := f.modifiesSelf }

variable {lines : List String}

lemma FunctionDef.Yields.taken {f : Function} (h : d.Yields lines f) : f.Taken := by
  obtain ⟨s, g, s', hrun, hf⟩ := h
  rw [hf]
  exact ⟨(lower_taken lines d hrun).1.decoration, (lower_taken lines d hrun).1.body⟩

lemma lower_yields (lines : List String) (d : FunctionDef) :
    Gives (d.Yields lines) (d.lower lines) :=
  fun s f s' hrun => ⟨s, f, s', hrun, rfl⟩

/-- Lowering the definition gives the method. -/
structure FunctionDef.YieldsMethod (lines : List String) (d : FunctionDef) (f : Function) :
    Prop where
  yields : d.Yields lines f
  isMethod : f.isMethod = true
  isStatic : f.isStatic = d.isStatic
  modifiesSelf : f.modifiesSelf = (d.name != "__init__" && d.stmt.modifiesSelf)

lemma FunctionDef.Yields.name_eq {f : Function} (h : d.Yields lines f) : f.name = d.name := by
  obtain ⟨s, g, s', hrun, hf⟩ := h
  have hname : g.name = d.name := (lower_taken lines d hrun).2
  rw [hf, ← hname]

structure ClassYields (lines : List String) (body : List Syntax.Stmt) (c : IR.Class) : Prop where
  decoration : c.decoration = none
  methods : Forall₂ (FunctionDef.YieldsMethod lines) (Syntax.definitions body) c.methods

lemma ClassYields.taken {body : List Syntax.Stmt} {c : IR.Class} (h : ClassYields lines body c) :
    c.Taken :=
  ⟨h.decoration, forall_mem_of_forall₂ h.methods fun _ _ hd => hd.yields.taken⟩

lemma members_yields (lines : List String) (body : List Syntax.Stmt) :
    Gives (fun m => Forall₂ (FunctionDef.YieldsMethod lines) (body.filterMap FunctionDef.ofStmt?)
      m.methods) (members lines body) := by
  induction body with
  | nil =>
    rw [members]
    exact .pure .nil
  | cons s rest ih =>
    rw [members.eq_def]
    dsimp only
    split
    · refine .after fun type => ?_
      exact ih.bind fun others hothers => .pure hothers
    · split
      case _ d hd =>
        rw [filterMap_cons_some hd]
        refine .bind (P := d.YieldsMethod lines) ?_ fun f hf => ?_
        · obtain rfl := eq_stmt hd
          exact (lower_yields lines d).bind fun f ⟨s, g, s', hrun, hf⟩ =>
            .pure ⟨⟨s, g, s', hrun, by rw [hf]⟩, rfl, rfl, rfl⟩
        exact ih.bind fun others hothers => .pure (.cons hf hothers)
      case _ hd =>
        rw [filterMap_cons_none hd]
        exact ih

lemma classItem_yields (lines : List String) (name : String) (bases : List Syntax.Expr)
    (body : List Syntax.Stmt) (decorators : List Syntax.Expr) (line : Nat) :
    Gives (ClassYields lines body) (classItem lines name bases body decorators line) := by
  unfold classItem
  refine .inScope ?_
  refine .after fun attributes => ?_
  refine (members_yields lines _).bind fun m hm => ?_
  dsimp only
  split
  · split
    · exact .after fun fields => .pure ⟨rfl, hm⟩
    · exact .pure ⟨rfl, hm⟩
  · exact .pure ⟨rfl, hm⟩

def Item.func? : Item → Option Function
  | .func f => some f
  | _ => none

def Item.cls? : Item → Option IR.Class
  | .cls c => some c
  | _ => none

lemma item_yields (lines : List String) (s : Syntax.Stmt) : Gives (fun item? =>
      Option.Rel (FunctionDef.Yields lines) (FunctionDef.ofStmt? s) (item?.bind Item.func?) ∧
        Option.Rel (ClassYields lines) s.classBody? (item?.bind Item.cls?)) (item lines s) := by
  unfold item
  split
  · exact .pure ⟨.none, .none⟩
  · exact .pure ⟨.none, .none⟩
  · refine (classItem_yields lines _ _ _ _ _).bind fun c hc => ?_
    exact .pure ⟨.none, .some hc⟩
  case _ hclass =>
    have hnone : s.classBody? = none := by
      cases s <;> first | rfl | exact absurd rfl (hclass _ _ _ _ _ _)
    rw [hnone]
    split
    case _ d hd =>
      rw [hd]
      refine (lower_yields lines d).bind fun f hf => ?_
      exact .pure ⟨.some hf, .none⟩
    case _ hd =>
      rw [hd]
      refine .after fun s? => .pure ?_
      cases s? <;> exact ⟨.none, .none⟩

lemma module_yields (lines : List String) (filename : Option String) (body : List Syntax.Stmt) :
    Gives (fun m => Forall₂ (FunctionDef.Yields lines) (Syntax.definitions body) m.functions ∧
      Forall₂ (ClassYields lines) (Syntax.classBodies body) m.classes)
      (module lines filename body) := by
  unfold module
  refine (Gives.listMapM fun s _ => item_yields lines s).bind fun items hitems => .pure ?_
  dsimp only
  unfold List.reduceOption
  rw [filterMap_filterMap, filterMap_filterMap]
  exact ⟨rel_filterMap (fun _ _ h => h.1) hitems, rel_filterMap (fun _ _ h => h.2) hitems⟩

end Lower

variable {filename : Option String} {f : SourceFile} {m : IR.Module}

/-- The functions and classes of a module that was read from a source file come, in order, from the
definitions of functions and classes in the file. -/
lemma yields_of_parse (hm : f.parse filename = .ok m) : ∃ body, f.tree = .ok body ∧
      Forall₂ (Lower.FunctionDef.Yields (Text.lines f.text)) (Syntax.definitions body) m.functions ∧
      Forall₂ (Lower.ClassYields (Text.lines f.text)) (Syntax.classBodies body) m.classes := by
  unfold SourceFile.parse at hm
  split at hm
  · cases hm
  case _ body htree =>
    split at hm
    · rename_i hrun
      cases hm
      exact ⟨body, htree, Lower.module_yields _ _ _ hrun⟩
    · cases hm

/-- The functions and classes of a module that was read from a source file are taken over. -/
lemma taken_of_parse (hm : f.parse filename = .ok m) :
    (∀ f ∈ m.functions, f.Taken) ∧ ∀ c ∈ m.classes, c.Taken := by
  obtain ⟨body, -, hfunctions, hclasses⟩ := yields_of_parse hm
  exact ⟨Lower.forall_mem_of_forall₂ hfunctions fun _ _ hd => hd.taken,
    Lower.forall_mem_of_forall₂ hclasses fun _ _ hc => hc.taken⟩

end Oxidize
