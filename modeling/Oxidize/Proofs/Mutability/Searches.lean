import Oxidize.Emit.Class
import Oxidize.Proofs.Emission.Calls

/-!
# Two searches for changed variables

Before a function is written, its body is scanned for variables that have to be mutable. When a list
is filled at once, a second search decides whether a later statement changes it (`IR.blockMutates`).
Outside of assignments to items and chained calls, the scan notes no variable that the second search
misses (`scan_spares_unmutated`).
-/

namespace Oxidize

open IR

namespace IR

/-! ## Places that only the scan looks at -/

def Expr.isMethodCall : Expr → Bool
  | .method .. => true
  | _ => false

variable (x : String)

mutual

/-- Does the variable go to a method that is called on the value of another call? -/
def Expr.isChained : Expr → Bool
  | .method obj _ args _ _ =>
    (obj.isMethodCall && args.any (·.isName x)) || anyChained args || obj.isChained
  | .call func args _ _ => anyChained args || func.isChained
  | .binary _ left right _ | .subscript left right _ => left.isChained || right.isChained
  | .unary _ e _ | .attr e _ _ | .await e _ => e.isChained
  | .list es _ | .tuple es _ => anyChained es
  | .dict entries _ => entriesChained entries
  | _ => false

def anyChained : List Expr → Bool
  | [] => false
  | e :: es => e.isChained || anyChained es

def entriesChained : List (Expr × Expr) → Bool
  | [] => false
  | (k, v) :: rest => k.isChained || v.isChained || entriesChained rest

end

mutual

/-- Is the variable in an assignment to an item, or does it go to a chained call? -/
def Stmt.hides : Stmt → Bool
  | .assign _ e _ _ _ _ | .attrAssign _ _ e _ _ | .expr e _ | .ret e _ => e.isChained x
  | .subscriptAssign obj _ e _ => obj.isName x || e.mutates x || e.isChained x
  | .ifStmt condition thenBody _ elseBody _ =>
    condition.isChained x || blockHides thenBody || blockHides elseBody
  | .forLoop _ e body _ | .whileLoop e body _ | .withBlock e _ body _ =>
    e.isChained x || blockHides body
  | .tryBlock body handlers elseBody finallyBody _ =>
    blockHides body || blockHides elseBody || handlersHide handlers || blockHides finallyBody
  | _ => false

def blockHides : List Stmt → Bool
  | [] => false
  | s :: ss => s.hides || blockHides ss

def handlersHide : List Handler → Bool
  | [] => false
  | (_, _, body) :: rest => blockHides body || handlersHide rest

end

end IR

/-- Light changes that, if `b` holds, neither note nor forget that the variable has to be
mutable. -/
def Manner.sparing (b : Bool) (x : String) : Manner :=
  ⟨fun f => Light f ∧ (b = true → ∀ c, x ∈ (f c).mutVars ↔ x ∈ c.mutVars), false⟩

namespace Emit

/-! ## The scan is plain -/

variable {T : Terms} {b : Bool} {x : String}

lemma and_or_eq_false {p q : Bool} :
    (b && (p || q)) = false ↔ (b && p) = false ∧ (b && q) = false := by
  rw [Bool.and_or_distrib_left, Bool.or_eq_false_iff]

lemma Plain.light {α : Type} {Q : α → Prop} {y : Emit α} (h : Plain (.sparing false "") T Q y) :
    Plain .light T Q y :=
  h.mono (fun _ hf => hf.1) id

lemma addMutName_sparing {e? : Option Expr} (h : b = true → e?.bind Expr.name? ≠ some x) :
    Plain (.sparing b x) T Any (addMutName e?) := by
  unfold addMutName
  split
  · rename_i n hn
    refine .change ⟨{ grows := fun _ _ hv => NameSet.mem_add.2 (.inr hv) }, fun hb c => ?_⟩
    have hne : x ≠ n := fun heq => h hb (heq ▸ hn)
    exact NameSet.mem_add.trans (or_iff_right hne)
  · exact .done

variable {obj : Expr}

lemma addMutObject_sparing (h : (b && obj.isName x) = false) :
    Plain (.sparing b x) T Any (addMutObject obj) := by
  cases obj with
  | name n line =>
    rw [addMutObject]
    split
    · exact .done
    · change Plain _ T Any (addMutName (some (.name n line)))
      refine addMutName_sparing fun hb => ?_
      simpa [hb, Expr.isName] using h
  | _ => exact .done

variable {args : List Expr}

lemma addBorrowed_sparing {types : List Value}
    (h : Usable T.errors (List.all · Value.isText) types)
    (hargs : (b && args.any (·.isName x)) = false) :
    Plain (.sparing b x) T Any (addBorrowed types args) := by
  induction types generalizing args with
  | nil =>
    rw [addBorrowed]
    exact .done
  | cons type types ih =>
    have hrest : Usable T.errors (List.all · Value.isText) types := h.imp fun husable => by
      rw [List.all_cons, Bool.and_eq_true] at husable
      exact husable.2
    rw [addBorrowed]
    refine .bind (P := Any) ?_ fun borrows _ => ?_
    · unfold borrowsMut
      split
      · refine .bind (P := Any) (.orValueFault h (fun husable => ?_) fun _ _ => trivial)
          fun _ _ => .done
        rw [List.all_cons, Bool.and_eq_true] at husable
        obtain ⟨text, rfl⟩ := Value.exists_of_isText husable.1
        exact ⟨text, rfl⟩
      · exact .done
    cases args with
    | nil =>
      refine (addMutName_sparing fun _ => ?_).bind fun _ _ => ih hrest (Bool.and_false b)
      cases borrows <;> simp
    | cons arg args =>
      rw [List.any_cons, and_or_eq_false] at hargs
      refine (addMutName_sparing fun hb => ?_).bind fun _ _ => ih hrest hargs.2
      cases borrows with
      | true => simpa [hb, Expr.isName] using hargs.1
      | false => simp

lemma scanChain_sparing
    (hargs : (b && (obj.isMethodCall && args.any (·.isName x))) = false) (method : String) :
    Plain (.sparing b x) T Any (scanChain obj method args) := by
  unfold scanChain
  split
  · refine (inferType_plain _).bind fun found hfound => ?_
    split
    · rename_i t
      split
      · exact .done
      refine (Acts.lookup (.method? _ _ (hfound t rfl))).bind fun found hm => ?_
      split
      · rename_i m
        split
        · rename_i hset
          refine .bind (P := Usable T.errors (List.all · Value.isText))
            (.orValueFault (hm m rfl) (fun husable => ?_) fun types htypes => ?_)
            fun types htypes => addBorrowed_sparing htypes hargs
          · obtain ⟨-, parts, hparts, -⟩ := Mapping.exists_paramTypes husable hset
            exact ⟨parts, by rw [Value.listed, hparts]⟩
          · unfold Value.listed at htypes
            split at htypes
            · rename_i hparts
              cases htypes
              exact usable_paramTypes (hm m rfl) hset hparts
            · cases htypes
        · exact .done
      · exact .done
    · exact .done
  · exact .done

lemma scanMethod_sparing {method : String}
    (hobj : (b && (obj.isName x && isChangingMethod method)) = false)
    (hshuffle : (b && (isShuffle obj method args && headIsName args x)) = false)
    (hchain : (b && (obj.isMethodCall && args.any (·.isName x))) = false) :
    Plain (.sparing b x) T Any (scanMethod obj method args) := by
  refine (addMutName_sparing fun hb => ?_).bind fun _ _ =>
    (addMutName_sparing fun hb => ?_).bind fun _ _ => scanChain_sparing hchain method
  · split <;> simp_all [Expr.isName]
  · split
    · cases args <;> simp_all [headIsName, Expr.isName]
    · simp

mutual

lemma scanExpr_sparing (e : Expr) (hm : (b && e.mutates x) = false) (hc : (b && e.isChained x) = false) :
    Plain (.sparing b x) T Any (scanExpr e) := by
  match e with
  | .method obj method args _ _ =>
    simp only [Expr.mutates, Expr.isChained, and_or_eq_false] at hm hc
    refine (scanMethod_sparing hm.1.1.1.1 hm.1.1.1.2 hc.1.1).bind fun _ _ => ?_
    refine (scanExprs_sparing args hm.1.2 hc.1.2).bind fun _ _ => ?_
    exact scanExpr_sparing obj hm.1.1.2 hc.2
  | .call func args _ _ =>
    simp only [Expr.mutates, Expr.isChained, and_or_eq_false] at hm hc
    exact (scanExprs_sparing args hm.1.1 hc.1).bind fun _ _ => scanExpr_sparing func hm.2 hc.2
  | .binary _ left right _ | .subscript left right _ =>
    simp only [Expr.mutates, Expr.isChained, and_or_eq_false] at hm hc
    exact (scanExpr_sparing left hm.1 hc.1).bind fun _ _ => scanExpr_sparing right hm.2 hc.2
  | .unary _ e _ | .attr e _ _ | .await e _ => exact scanExpr_sparing e hm hc
  | .list es _ | .tuple es _ => exact scanExprs_sparing es hm hc
  | .dict entries _ => exact scanEntries_sparing entries hm hc
  | .absent | .literal .. | .name .. | .other .. | .slice .. | .set .. | .ifExp .. | .listComp ..
  | .formatted .. | .fstring .. => exact .done

lemma scanExprs_sparing (es : List Expr) (hm : (b && mutatesList x es) = false)
    (hc : (b && anyChained x es) = false) : Plain (.sparing b x) T Any (scanExprs es) := by
  match es with
  | [] => exact .done
  | e :: es =>
    simp only [mutatesList, anyChained, and_or_eq_false] at hm hc
    exact (scanExpr_sparing e hm.1 hc.1).bind fun _ _ => scanExprs_sparing es hm.2 hc.2

lemma scanEntries_sparing (entries : List (Expr × Expr))
    (hm : (b && mutatesEntries x entries) = false) (hc : (b && entriesChained x entries) = false) :
    Plain (.sparing b x) T Any (scanEntries entries) := by
  match entries with
  | [] => exact .done
  | (k, v) :: rest =>
    simp only [mutatesEntries, entriesChained, and_or_eq_false] at hm hc
    refine (scanExpr_sparing k hm.1.1 hc.1.1).bind fun _ _ => ?_
    exact (scanExpr_sparing v hm.1.2 hc.1.2).bind fun _ _ => scanEntries_sparing rest hm.2 hc.2

end

mutual

lemma scanStmt_sparing (s : Stmt) (hm : (b && s.mutates x) = false) (hh : (b && s.hides x) = false) :
    Plain (.sparing b x) T Any (scanStmt s) := by
  match s with
  | .expr e _ | .ret e _ => exact scanExpr_sparing e hm hh
  | .assign _ e _ _ _ _ => exact scanExpr_sparing e (and_or_eq_false.1 hm).2 hh
  | .attrAssign obj _ e _ _ =>
    simp only [Stmt.mutates, and_or_eq_false] at hm
    exact (scanExpr_sparing e hm.2 hh).bind fun _ _ => addMutObject_sparing hm.1.1
  | .subscriptAssign obj _ e _ =>
    simp only [Stmt.hides, and_or_eq_false] at hh
    exact (scanExpr_sparing e hh.1.2 hh.2).bind fun _ _ => addMutObject_sparing hh.1.1
  | .ifStmt condition thenBody _ elseBody _ =>
    simp only [Stmt.mutates, Stmt.hides, and_or_eq_false] at hm hh
    refine (scanExpr_sparing condition hm.1.1.1 hh.1.1).bind fun _ _ => ?_
    exact (scanBlock_sparing thenBody hm.1.1.2 hh.1.2).bind fun _ _ =>
      scanBlock_sparing elseBody hm.2 hh.2
  | .forLoop _ e body _ | .whileLoop e body _ | .withBlock e _ body _ =>
    simp only [Stmt.mutates, Stmt.hides, and_or_eq_false] at hm hh
    exact (scanExpr_sparing e hm.1 hh.1).bind fun _ _ => scanBlock_sparing body hm.2 hh.2
  | .tryBlock body handlers elseBody finallyBody _ =>
    simp only [Stmt.mutates, Stmt.hides, and_or_eq_false] at hm hh
    refine (scanBlock_sparing body hm.1.1.1 hh.1.1.1).bind fun _ _ => ?_
    refine (scanBlock_sparing elseBody hm.1.1.2 hh.1.1.2).bind fun _ _ => ?_
    exact (scanHandlers_sparing handlers hm.1.2 hh.1.2).bind fun _ _ =>
      scanBlock_sparing finallyBody hm.2 hh.2
  | .tupleUnpack .. | .raise .. | .breakLoop _ | .continueLoop _ | .pass _ | .other .. =>
    exact .done

lemma scanBlock_sparing (body : List Stmt) (hm : (b && blockMutates x body) = false)
    (hh : (b && blockHides x body) = false) : Plain (.sparing b x) T Any (scanBlock body) := by
  match body with
  | [] => exact .done
  | s :: rest =>
    simp only [blockMutates, blockHides, and_or_eq_false] at hm hh
    exact (scanStmt_sparing s hm.1 hh.1).bind fun _ _ => scanBlock_sparing rest hm.2 hh.2

lemma scanHandlers_sparing (handlers : List Handler)
    (hm : (b && handlerMutates x handlers) = false) (hh : (b && handlersHide x handlers) = false) :
    Plain (.sparing b x) T Any (scanHandlers handlers) := by
  match handlers with
  | [] => exact .done
  | (_, _, body) :: rest =>
    simp only [handlerMutates, handlersHide, and_or_eq_false] at hm hh
    exact (scanBlock_sparing body hm.1 hh.1).bind fun _ _ => scanHandlers_sparing rest hm.2 hh.2

end

lemma addMutName_plain (e? : Option Expr) : Mild T (addMutName e?) :=
  Plain.light (addMutName_sparing Bool.noConfusion)

lemma scanChain_plain (obj : Expr) (method : String) (args : List Expr) :
    Mild T (scanChain obj method args) :=
  Plain.light (scanChain_sparing rfl method)

lemma scanBlock_plain (body : List Stmt) : Mild T (scanBlock body) :=
  Plain.light (scanBlock_sparing body rfl rfl)

end Emit

/-- If the search finds no change of a variable, and no assignment to an item and no chained call
has it, the scan leaves the note on the variable as it is. -/
theorem scan_spares_unmutated {x : String} {body : List Stmt} {e e' : Emitter}
    (hmutates : IR.blockMutates x body = false) (hhides : IR.blockHides x body = false)
    (h : e.run (Emit.scanBlock body) = (.ok (), e')) :
    x ∈ e'.ctx.mutVars ↔ x ∈ e.ctx.mutVars := by
  have hspared : Plain (.sparing true x) .free Any (Emit.scanBlock body) :=
    Emit.scanBlock_sparing body hmutates hhides
  have hchange (e : Emitter) (f : Context → Context) (hf : (Manner.sparing true x).changes f) :
      x ∈ (f e.ctx).mutVars ↔ x ∈ e.ctx.mutVars :=
    hf.2 rfl e.ctx
  have hkept : x ∈ (e.run (Emit.scanBlock body)).2.ctx.mutVars ↔ x ∈ e.ctx.mutVars :=
    hspared.run_rel (R := fun e e' => x ∈ e'.ctx.mutVars ↔ x ∈ e.ctx.mutVars) (fun _ => .rfl)
      (fun h h' => h'.trans h) hchange (fun _ _ _ => .rfl)
      (fun f _ => .free f) e.within_free
  rw [h] at hkept
  exact hkept

/-- A function that fills a list and then assigns to its first item. -/
def storingFunction : IR.Function where
  name := "f"
  params := []
  result := some (.generic "list" [.prim .int])
  body :=
    [.assign "v" (.list [] none) (some (.generic "list" [.prim .int])) true false none,
     .expr (.method (.name "v" none) "append" [.literal (.int 1) none] [] none) none,
     .subscriptAssign (.name "v" none) (.literal (.int 0) none) (.literal (.int 2) none) none,
     .ret (.name "v" none) none]

theorem scan_spares_unmutated_storingFunction :
    ∃ e, Emitter.run {} (Emit.scanBlock (storingFunction.body.drop 3)) = (.ok (), e) ∧
      "v" ∉ e.ctx.mutVars := by
  refine ⟨_, rfl, fun hv => ?_⟩
  have hmutates : blockMutates "v" (storingFunction.body.drop 3) = false := rfl
  cases (scan_spares_unmutated hmutates (by decide) rfl).1 hv

/-- The scan notes the variable because of the assignment to its item, the search does not find it,
and the list is declared as constant. -/
theorem item_store_declared_constant :
    let later := storingFunction.body.drop 2
    blockMutates "v" later = false ∧
      "v" ∈ (Emitter.run {} (Emit.scanBlock later)).2.ctx.mutVars ∧
      (Emitter.run {} (Emit.function storingFunction)).1.toOption =
        some ("pub fn f() -> Vec<i64> \x7b\n    let v: Vec<i64> = vec![1];\n    v[0] = 2;\n" ++
          "    v\n\x7d") := by
  decide +kernel

end Oxidize
