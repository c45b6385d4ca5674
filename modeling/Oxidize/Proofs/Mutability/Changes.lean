import Oxidize.Proofs.Emission.Items
import Oxidize.Proofs.Mutability.Marking

/-!
# Where variables are changed, and which search notices it

A variable is changed where it is assigned again, where one of its fields or items is assigned, and
where a method is called on it that changes its receiver. Two searches look for such places:
marking, when a function is taken over, and the scan before it is written. `blockChanges` lists all
places of a body where a variable is changed, each with the searches that notice it. What marking is
said to notice it takes into account (`blockChanges_marks`), and what the scan is said to notice it
notes (`Emit.scanBlock_notes`).
-/

namespace Oxidize

open IR (Expr Stmt)
open List

structure Sight where
  marking : Bool
  scan : Bool
  deriving DecidableEq

/-- A place where a variable is changed, with the searches that notice it. -/
structure Change where
  name : String
  noticed : Sight
  deriving DecidableEq

namespace Change

/-- A call of a method, if it is one that changes the variable it is called on. The searches know
different methods. -/
def ofReceiver (obj : Expr) (method : String) : List Change :=
  match obj.name? with
  | some n =>
    if Lower.isMutating method || IR.isChangingMethod method then
      [⟨n, Lower.isMutating method, IR.isChangingMethod method⟩]
    else []
  | none => []

def ofObject (obj : Expr) : List Change :=
  obj.name?.toList.map fun n => ⟨n, false, n != "self"⟩

def unmarked (cs : List Change) : List Change :=
  cs.map fun c => { c with noticed.marking := false }

def unseen (cs : List Change) : List Change :=
  cs.map fun c => { c with noticed := ⟨false, false⟩ }

end Change

open Change (unmarked unseen)

mutual

def exprChanges : Expr → List Change
  | .method obj method args kwargs _ =>
    Change.ofReceiver obj method ++ unmarked (exprsChanges args) ++ unseen (kwargsChanges kwargs)
      ++ unmarked (exprChanges obj)
  | .call func args kwargs _ =>
    exprsChanges args ++ unseen (kwargsChanges kwargs) ++ unmarked (exprChanges func)
  | .await value _ => exprChanges value
  | .binary _ a b _ | .subscript a b _ => unmarked (exprChanges a ++ exprChanges b)
  | .unary _ e _ | .attr e _ _ => unmarked (exprChanges e)
  | .list elements _ | .tuple elements _ => unmarked (exprsChanges elements)
  | .dict entries _ => unmarked (entriesChanges entries)
  | .slice a b c _ | .ifExp a b c _ => unseen (exprChanges a ++ exprChanges b ++ exprChanges c)
  | .set e _ | .fstring e _ => unseen (exprsChanges e)
  | .listComp element _ source conditions _ =>
    unseen (exprChanges source ++ exprsChanges conditions ++ exprChanges element)
  | .formatted value _ _ => unseen (exprChanges value)
  | .absent | .literal .. | .name .. | .other .. => []

def exprsChanges : List Expr → List Change
  | [] => []
  | e :: es => exprChanges e ++ exprsChanges es

def kwargsChanges : Table Expr → List Change
  | [] => []
  | (_, e) :: rest => exprChanges e ++ kwargsChanges rest

def entriesChanges : List (Expr × Expr) → List Change
  | [] => []
  | (k, v) :: rest => exprChanges k ++ exprChanges v ++ entriesChanges rest

end

mutual

def stmtChanges : Stmt → List Change
  | .assign target value _ declares _ _ =>
    exprChanges value ++ if declares then [] else [⟨target, true, false⟩]
  | .tupleUnpack _ e _ _ _ _ | .raise e _ => unseen (exprChanges e)
  | .attrAssign obj _ value _ _ =>
    unseen (exprChanges obj) ++ unmarked (exprChanges value) ++ Change.ofObject obj
  | .subscriptAssign obj index value _ =>
    unseen (exprChanges obj ++ exprChanges index) ++ unmarked (exprChanges value)
      ++ Change.ofObject obj
  | .expr value _ => exprChanges value
  | .ret value _ => unmarked (exprChanges value)
  | .ifStmt condition thenBody elifs elseBody _ =>
    unmarked (exprChanges condition) ++ blockChanges thenBody ++ unseen (elifChanges elifs)
      ++ blockChanges elseBody
  | .whileLoop e body _ | .forLoop _ e body _ | .withBlock e _ body _ =>
    unmarked (exprChanges e) ++ blockChanges body
  | .tryBlock body handlers elseBody finallyBody _ =>
    blockChanges body ++ handlerChanges handlers ++ unmarked (blockChanges elseBody)
      ++ blockChanges finallyBody
  | .breakLoop _ | .continueLoop _ | .pass _ | .other .. => []

def blockChanges : List Stmt → List Change
  | [] => []
  | s :: rest => stmtChanges s ++ blockChanges rest

def elifChanges : List IR.Elif → List Change
  | [] => []
  | (condition, body) :: rest => exprChanges condition ++ blockChanges body ++ elifChanges rest

def handlerChanges : List IR.Handler → List Change
  | [] => []
  | (_, _, body) :: rest => blockChanges body ++ handlerChanges rest

end

/-! ## What marking notices -/

def Change.Marks (cs : List Change) (names : List String) : Prop :=
  ∀ c ∈ cs, c.noticed.marking = true → c.name ∈ names

namespace Change.Marks

variable {cs ds : List Change} {names others : List String}

lemma nil : Marks [] names :=
  nofun

lemma append (hcs : Marks cs names) (hds : Marks ds others) : Marks (cs ++ ds) (names ++ others) := by
  intro c hc hmarking
  rw [mem_append] at hc ⊢
  exact hc.imp (hcs c · hmarking) (hds c · hmarking)

/-- What marking does not notice may stand before or after what it notices. -/
lemma append_left (hcs : Marks cs names) (hds : Marks ds []) : Marks (cs ++ ds) names := by
  simpa using hcs.append hds

lemma append_right (hcs : Marks cs []) (hds : Marks ds names) : Marks (cs ++ ds) names := by
  simpa using hcs.append hds

lemma unmarked (cs : List Change) : Marks (unmarked cs) [] := by
  intro c hc hmarking
  obtain ⟨d, -, rfl⟩ := mem_map.1 hc
  cases hmarking

lemma unseen (cs : List Change) : Marks (unseen cs) [] := by
  intro c hc hmarking
  obtain ⟨d, -, rfl⟩ := mem_map.1 hc
  cases hmarking

lemma ofObject (obj : Expr) : Marks (ofObject obj) [] := by
  intro c hc hmarking
  obtain ⟨n, -, rfl⟩ := mem_map.1 hc
  cases hmarking

end Change.Marks

open Change (Marks)

lemma Change.ofReceiver_marks (obj : Expr) (method : String) (args : List Expr)
    (kwargs : Table Expr) (line : IR.Line) :
    Marks (ofReceiver obj method) (Lower.changedBy (.method obj method args kwargs line)) := by
  intro c hc hmarking
  unfold ofReceiver at hc
  split at hc
  · rename_i n hn
    obtain ⟨line', rfl⟩ : ∃ line', obj = .name n line' := by
      cases obj <;> cases hn
      exact ⟨_, rfl⟩
    split at hc
    · obtain rfl := mem_singleton.1 hc
      rw [Lower.changedBy, if_pos hmarking]
      exact mem_singleton_self _
    · cases hc
  · cases hc

mutual

lemma exprChanges_marks (e : Expr) : Marks (exprChanges e) (Lower.changedBy e) := by
  match e with
  | .method obj method args kwargs line =>
    have hreceiver := Change.ofReceiver_marks obj method args kwargs line
    exact ((hreceiver.append_left (.unmarked _)).append_left (.unseen _)).append_left (.unmarked _)
  | .call func args kwargs _ =>
    exact ((exprsChanges_marks args).append_left (.unseen _)).append_left (.unmarked _)
  | .await value _ => exact exprChanges_marks value
  | .binary .. | .unary .. | .attr .. | .subscript .. | .list .. | .dict .. | .tuple .. =>
    exact .unmarked _
  | .slice .. | .set .. | .ifExp .. | .listComp .. | .formatted .. | .fstring .. =>
    exact .unseen _
  | .absent | .literal .. | .name .. | .other .. => exact .nil

lemma exprsChanges_marks (es : List Expr) : Marks (exprsChanges es) (Lower.changedByAll es) := by
  match es with
  | [] => exact .nil
  | e :: es => exact (exprChanges_marks e).append (exprsChanges_marks es)

end

mutual

lemma stmtChanges_marks (s : Stmt) : Marks (stmtChanges s) (Lower.stmtNames s).changed := by
  match s with
  | .assign target value _ true _ _ => exact (exprChanges_marks value).append_left .nil
  | .assign target value _ false _ _ =>
    intro c hc hmarking
    rcases mem_append.1 hc with hc | hc
    · exact mem_cons_of_mem _ (exprChanges_marks value c hc hmarking)
    · obtain rfl := mem_singleton.1 hc
      exact mem_cons_self
  | .tupleUnpack .. | .raise .. => exact .unseen _
  | .attrAssign obj .. | .subscriptAssign obj .. =>
    exact ((Marks.unseen _).append_left (.unmarked _)).append_left (.ofObject obj)
  | .expr value _ => exact exprChanges_marks value
  | .ret .. => exact .unmarked _
  | .ifStmt condition thenBody _ elseBody _ =>
    have hthen := (Marks.unmarked (exprChanges condition)).append_right
      (blockChanges_marks thenBody)
    exact (hthen.append_left (.unseen _)).append (blockChanges_marks elseBody)
  | .whileLoop _ body _ | .forLoop _ _ body _ | .withBlock _ _ body _ =>
    exact (Marks.unmarked _).append_right (blockChanges_marks body)
  | .tryBlock body handlers elseBody finallyBody _ =>
    intro c hc hmarking
    have hall := (((blockChanges_marks body).append (handlerChanges_marks handlers)).append_left
      (.unmarked (blockChanges elseBody))).append (blockChanges_marks finallyBody) c hc hmarking
    -- the names of the handlers are listed after those of the cleanup
    simp only [mem_append] at hall
    simp only [Lower.stmtNames, Lower.Names.changed_append, mem_append]
    exact or_right_comm.1 hall
  | .breakLoop _ | .continueLoop _ | .pass _ | .other .. => exact .nil

lemma blockChanges_marks (body : List Stmt) :
    Marks (blockChanges body) (Lower.blockNames body).changed := by
  match body with
  | [] => exact .nil
  | s :: rest => exact (stmtChanges_marks s).append (blockChanges_marks rest)

lemma handlerChanges_marks (handlers : List IR.Handler) :
    Marks (handlerChanges handlers) (Lower.handlerNames handlers).changed := by
  match handlers with
  | [] => exact .nil
  | (_, _, body) :: rest => exact (blockChanges_marks body).append (handlerChanges_marks rest)

end

/-! ## What the scan notices -/

def Change.noted (cs : List Change) : List String :=
  (cs.filter (·.noticed.scan)).map (·.name)

namespace Change

lemma noted_append (cs ds : List Change) : noted (cs ++ ds) = noted cs ++ noted ds := by
  simp [noted]

lemma noted_unmarked (cs : List Change) : noted (unmarked cs) = noted cs := by
  simp [noted, unmarked, filter_map, Function.comp_def]

lemma noted_unseen (cs : List Change) : noted (unseen cs) = [] := by
  simp [noted, unseen]

end Change

open Change

namespace Emit

open Emitter (of_run_bind)

/-- The action forgets no variable that has to be mutable, and notes the given ones. -/
def Notes {α : Type} (names : List String) (x : Emit α) : Prop :=
  ∀ ⦃e : Emitter⦄ ⦃a : α⦄ ⦃e' : Emitter⦄, e.run x = (.ok a, e') →
    ∀ v, v ∈ names ∨ v ∈ e.ctx.mutVars → v ∈ e'.ctx.mutVars

namespace Notes

variable {α β : Type} {names others : List String} {x : Emit α} {f : α → Emit β}

lemma pure (a : α) : Notes [] (pure a : Emit α) := by
  intro e b e' h v hv
  cases h
  exact hv.resolve_left nofun

lemma bind (hx : Notes names x) (hf : ∀ a, Notes others (f a)) :
    Notes (names ++ others) (x >>= f) := by
  intro e b e'' h v hv
  obtain ⟨a, e', hrun, h⟩ := of_run_bind h
  apply hf a h v
  rw [mem_append, or_assoc] at hv
  rcases hv with hv | hv | hv
  · exact .inr (hx hrun v (.inl hv))
  · exact .inl hv
  · exact .inr (hx hrun v (.inr hv))

lemma after (hx : Notes [] x) (hf : ∀ a, Notes names (f a)) : Notes names (x >>= f) :=
  hx.bind hf

lemma before (hx : Notes names x) (hf : ∀ a, Notes [] (f a)) : Notes names (x >>= f) := by
  have hboth := hx.bind hf
  rwa [append_nil] at hboth

lemma mono (hx : Notes names x) (h : ∀ v ∈ others, v ∈ names) : Notes others x :=
  fun _ _ _ hrun v hv => hx hrun v (hv.imp_left (h v))

lemma of_plain {C : Manner} {Q : α → Prop}
    (hC : ∀ f, C.changes f → ∀ c, ∀ v ∈ c.mutVars, v ∈ (f c).mutVars)
    (hx : Plain C .free Q x) : Notes [] x := by
  intro e a e' h v hv
  have hgrows : ∀ v ∈ e.ctx.mutVars, v ∈ (e.run x).2.ctx.mutVars :=
    hx.run_rel (R := fun e e' => ∀ v ∈ e.ctx.mutVars, v ∈ e'.ctx.mutVars)
      (fun _ _ hv => hv) (fun h₁₂ h₂₃ v hv => h₂₃ v (h₁₂ v hv)) (fun e f hf => hC f hf e.ctx)
      (fun _ _ _ _ hv => hv) (fun f _ => .free f) e.within_free
  rw [h] at hgrows
  exact hgrows v (hv.resolve_left nofun)

lemma of_light {Q : α → Prop} (hx : Plain .light .free Q x) : Notes [] x :=
  of_plain (fun _ hf => Light.grows hf) hx

end Notes

lemma addMutVar_notes (name : String) : Notes [name] (addMutVar name) := by
  intro e u e' h v hv
  cases h
  exact NameSet.mem_add.2 (hv.imp_left mem_singleton.1)

lemma addMutName_notes (e? : Option Expr) : Notes (e?.bind Expr.name?).toList (addMutName e?) := by
  unfold addMutName
  cases e?.bind Expr.name? with
  | some n => exact addMutVar_notes n
  | none => exact .pure ()

lemma addMutObject_notes (obj : Expr) : Notes (noted (Change.ofObject obj)) (addMutObject obj) := by
  cases obj with
  | name n line =>
    cases hself : n == "self" with
    | true =>
      rw [addMutObject, if_pos hself]
      refine (Notes.pure ()).mono ?_
      simp [noted, Change.ofObject, Expr.name?, bne, hself]
    | false =>
      rw [addMutObject, if_neg (by rw [hself]; exact Bool.false_ne_true)]
      refine (addMutVar_notes n).mono ?_
      simp [noted, Change.ofObject, Expr.name?, bne, hself]
  | _ => exact .pure ()

lemma scanMethod_notes (obj : Expr) (method : String) (args : List Expr) :
    Notes (noted (Change.ofReceiver obj method)) (scanMethod obj method args) := by
  unfold scanMethod
  refine Notes.before (Notes.mono (addMutName_notes _) fun v hv => ?_) fun _ => ?_
  · unfold Change.ofReceiver at hv
    split at hv
    · rename_i n hn
      split at hv
      · cases hchanging : IR.isChangingMethod method with
        | true => simpa [noted, hchanging, hn] using hv
        | false => simp [noted, hchanging] at hv
      · cases hv
    · cases hv
  · refine Notes.after (Notes.of_light (addMutName_plain _)) fun _ => ?_
    exact .of_light (scanChain_plain obj method args)

mutual

lemma scanExpr_notes (e : Expr) : Notes (noted (exprChanges e)) (scanExpr e) := by
  match e with
  | .method obj method args kwargs _ =>
    rw [scanExpr, exprChanges]
    simp only [noted_append, noted_unmarked, noted_unseen, append_assoc]
    refine (scanMethod_notes obj method args).bind fun _ => ?_
    exact (scanExprs_notes args).bind fun _ => scanExpr_notes obj
  | .call func args kwargs _ =>
    rw [scanExpr, exprChanges]
    simp only [noted_append, noted_unmarked, noted_unseen, append_nil]
    exact (scanExprs_notes args).bind fun _ => scanExpr_notes func
  | .await value _ =>
    rw [scanExpr, exprChanges]
    exact scanExpr_notes value
  | .binary _ left right _ | .subscript left right _ =>
    rw [scanExpr, exprChanges, noted_unmarked, noted_append]
    exact (scanExpr_notes left).bind fun _ => scanExpr_notes right
  | .unary _ value _ | .attr value _ _ =>
    rw [scanExpr, exprChanges, noted_unmarked]
    exact scanExpr_notes value
  | .list elements _ | .tuple elements _ =>
    rw [scanExpr, exprChanges, noted_unmarked]
    exact scanExprs_notes elements
  | .dict entries _ =>
    rw [scanExpr, exprChanges, noted_unmarked]
    exact scanEntries_notes entries
  | .slice .. | .set .. | .ifExp .. | .listComp .. | .formatted .. | .fstring .. =>
    rw [scanExpr, exprChanges, noted_unseen]
    · exact .pure ()
    all_goals exact nofun
  | .absent | .literal .. | .name .. | .other .. =>
    rw [scanExpr, exprChanges]
    · exact .pure ()
    all_goals exact nofun

lemma scanExprs_notes (es : List Expr) : Notes (noted (exprsChanges es)) (scanExprs es) := by
  match es with
  | [] => exact .pure ()
  | e :: es =>
    rw [scanExprs, exprsChanges, noted_append]
    exact (scanExpr_notes e).bind fun _ => scanExprs_notes es

lemma scanEntries_notes (entries : List (Expr × Expr)) :
    Notes (noted (entriesChanges entries)) (scanEntries entries) := by
  match entries with
  | [] => exact .pure ()
  | (k, v) :: rest =>
    rw [scanEntries, entriesChanges, noted_append, noted_append, append_assoc]
    refine (scanExpr_notes k).bind fun _ => ?_
    exact (scanExpr_notes v).bind fun _ => scanEntries_notes rest

end

mutual

lemma scanStmt_notes (s : Stmt) : Notes (noted (stmtChanges s)) (scanStmt s) := by
  match s with
  | .assign target value _ declares _ _ =>
    rw [scanStmt, stmtChanges, noted_append]
    refine (scanExpr_notes value).mono fun v hv => ?_
    cases declares <;> simpa [noted] using hv
  | .expr value _ =>
    rw [scanStmt, stmtChanges]
    exact scanExpr_notes value
  | .ret value _ =>
    rw [scanStmt, stmtChanges, noted_unmarked]
    exact scanExpr_notes value
  | .attrAssign obj _ value _ _ | .subscriptAssign obj _ value _ =>
    rw [scanStmt, stmtChanges]
    simp only [noted_append, noted_unmarked, noted_unseen, nil_append]
    exact (scanExpr_notes value).bind fun _ => addMutObject_notes obj
  | .ifStmt condition thenBody elifs elseBody _ =>
    rw [scanStmt, stmtChanges]
    simp only [noted_append, noted_unmarked, noted_unseen, append_assoc]
    refine (scanExpr_notes condition).bind fun _ => ?_
    exact (scanBlock_notes thenBody).bind fun _ => scanBlock_notes elseBody
  | .whileLoop value body _ | .forLoop _ value body _ | .withBlock value _ body _ =>
    rw [scanStmt, stmtChanges, noted_append, noted_unmarked]
    exact (scanExpr_notes value).bind fun _ => scanBlock_notes body
  | .tryBlock body handlers elseBody finallyBody _ =>
    rw [scanStmt, stmtChanges]
    have hscan := (scanBlock_notes body).bind fun _ => (scanBlock_notes elseBody).bind fun _ =>
      (scanHandlers_notes handlers).bind fun _ => scanBlock_notes finallyBody
    -- the scan goes to the `else` block before the handlers
    refine hscan.mono fun v hv => ?_
    simp only [noted_append, noted_unmarked, mem_append] at hv ⊢
    grind
  | .tupleUnpack .. | .raise .. =>
    rw [scanStmt, stmtChanges, noted_unseen]
    · exact .pure ()
    all_goals exact nofun
  | .breakLoop _ | .continueLoop _ | .pass _ | .other .. =>
    rw [scanStmt, stmtChanges]
    · exact .pure ()
    all_goals exact nofun

lemma scanBlock_notes (body : List Stmt) : Notes (noted (blockChanges body)) (scanBlock body) := by
  match body with
  | [] => exact .pure ()
  | s :: rest =>
    rw [scanBlock, blockChanges, noted_append]
    exact (scanStmt_notes s).bind fun _ => scanBlock_notes rest

lemma scanHandlers_notes (handlers : List IR.Handler) :
    Notes (noted (handlerChanges handlers)) (scanHandlers handlers) := by
  match handlers with
  | [] => exact .pure ()
  | (_, _, body) :: rest =>
    rw [scanHandlers, handlerChanges, noted_append]
    exact (scanBlock_notes body).bind fun _ => scanHandlers_notes rest

end

end Emit

end Oxidize
