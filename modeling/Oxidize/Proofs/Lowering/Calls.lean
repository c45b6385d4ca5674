import Mathlib.Algebra.Ring.Nat
import Oxidize.Proofs.Lowering.Steps
import Oxidize.Proofs.Tables

/-!
# Calls are taken over

How often the calls of a function body are taken over. Lowering slips where it leaves an operand
out, as the `else` of a loop, or takes one over twice, as the middle operand of a chain of
comparisons. All slips of a body are listed (`Slip.ofBlock`), and the main result is the balance: up
to the calls in the parts that are dropped or doubled, the body has as many calls after lowering as
before.
-/

namespace Oxidize

open Syntax List

/-! ## Entries that are overwritten -/

namespace Table

variable {α : Type}

def live : List (String × α) → List (String × α)
  | [] => []
  | (key, value) :: rest => if key ∈ keys rest then live rest else (key, value) :: live rest

lemma set_perm {t : Table α} (h : t.keys.Nodup) (key : String) (value : α) :
    (t.set key value).Perm (t.filter (·.1 != key) ++ [(key, value)]) := by
  induction t with
  | nil => exact .refl _
  | cons entry rest ih =>
    obtain ⟨k, v⟩ := entry
    obtain ⟨hk, hrest⟩ := nodup_cons.1 h
    rw [set]
    by_cases hkey : k = key
    · subst hkey
      have hothers : rest.filter (·.1 != k) = rest := by
        refine filter_eq_self.2 fun entry hentry => bne_iff_ne.2 ?_
        rintro rfl
        exact hk (mem_map.2 ⟨entry, hentry, rfl⟩)
      rw [if_pos (beq_self_eq_true k), filter_cons_of_neg (by simp), hothers]
      exact (perm_append_singleton _ _).symm
    · rw [if_neg (by simpa using hkey), filter_cons_of_pos (by simpa using hkey)]
      exact (ih hrest).cons _

lemma update_perm {t : Table α} (h : t.keys.Nodup) (u : List (String × α)) :
    (t.update u).Perm (t.filter (·.1 ∉ keys u) ++ live u) := by
  induction u generalizing t with
  | nil =>
    rw [live, append_nil, filter_eq_self.2 fun entry _ => by simp [keys]]
    exact .refl _
  | cons entry rest ih =>
    obtain ⟨key, value⟩ := entry
    have hset : ((t.set key value).filter (·.1 ∉ keys rest)).Perm
        ((t.filter (·.1 != key) ++ [(key, value)]).filter (·.1 ∉ keys rest)) :=
      (set_perm h key value).filter _
    have hfilter : (t.filter (·.1 != key)).filter (·.1 ∉ keys rest) =
        t.filter (·.1 ∉ keys ((key, value) :: rest)) := by
      rw [filter_filter]
      refine filter_congr fun entry _ => ?_
      have hkeys : keys ((key, value) :: rest) = key :: keys rest := rfl
      rw [Bool.eq_iff_iff, hkeys]
      simp [and_comm]
    rw [filter_append, hfilter] at hset
    refine (ih (nodup_keys_set h key value)).trans ((hset.append_right _).trans ?_)
    rw [append_assoc, live]
    refine List.Perm.append_left _ ?_
    by_cases hkey : key ∈ keys rest
    · simp [hkey]
    · simp [hkey]

lemma ofList_perm (entries : List (String × α)) : (ofList entries).Perm (live entries) :=
  update_perm (t := []) nodup_nil entries

end Table

/-! ## Calls of the source language -/

namespace Syntax

def Expr.isCall : Expr → Bool
  | .call .. => true
  | _ => false

def callsAmong (parts : List Expr) : Nat :=
  parts.countP Expr.isCall

@[simp] lemma callsAmong_nil : callsAmong [] = 0 := rfl

@[simp] lemma callsAmong_cons (e : Expr) (parts : List Expr) :
    callsAmong (e :: parts) = e.isCall.toNat + callsAmong parts := by
  rw [callsAmong, countP_cons, Nat.add_comm]
  cases e.isCall <;> rfl

@[simp] lemma callsAmong_append (parts rest : List Expr) :
    callsAmong (parts ++ rest) = callsAmong parts + callsAmong rest :=
  countP_append

/-- The number of calls in a statement outside of type hints, without those in the statements inside
of it. -/
def Stmt.ownCalls : Stmt → Nat
  | .annAssign target _ value _ => callsAmong (target.parts ++ partsOption value)
  | s => callsAmong s.exprs

def callsIn (body : List Stmt) : Nat :=
  ((stmtParts body).map Stmt.ownCalls).sum

def callsInHandlers (handlers : List Handler) : Nat :=
  ((handlerParts handlers).map Stmt.ownCalls).sum

def Stmt.calls (s : Stmt) : Nat :=
  (s.parts.map Stmt.ownCalls).sum

@[simp] lemma callsIn_nil : callsIn [] = 0 := rfl

@[simp] lemma callsIn_cons (s : Stmt) (rest : List Stmt) :
    callsIn (s :: rest) = s.calls + callsIn rest := by
  simp [callsIn, Stmt.calls, stmtParts]

@[simp] lemma callsInHandlers_nil : callsInHandlers [] = 0 := rfl

@[simp] lemma callsInHandlers_cons (type : Option Expr) (bound : Option String)
    (body : List Stmt) (rest : List Handler) :
    callsInHandlers ((type, bound, body) :: rest) = callsIn body + callsInHandlers rest := by
  simp [callsInHandlers, callsIn, handlerParts]

/-- The name that a named argument is given under; a table that is spread has none. -/
def Keyword.given? : Keyword → Option String
  | .mk name _ => name.filter (· != "")

end Syntax

/-! ## Calls of the intermediate form -/

namespace IR

mutual

/-- The number of calls in an expression, of functions and of methods. -/
def Expr.calls : Expr → Nat
  | .absent | .literal _ _ | .name _ _ | .other _ _ => 0
  | .binary _ a b _ | .subscript a b _ => a.calls + b.calls
  | .unary _ e _ | .attr e _ _ | .formatted e _ _ | .await e _ => e.calls
  | .call e args kwargs _ | .method e _ args kwargs _ =>
    1 + e.calls + callsAll args + callsNamed kwargs
  | .slice a b c _ | .ifExp a b c _ => a.calls + b.calls + c.calls
  | .list e _ | .set e _ | .tuple e _ | .fstring e _ => callsAll e
  | .dict entries _ => callsEntries entries
  | .listComp element _ source conditions _ =>
    element.calls + source.calls + callsAll conditions

def callsAll : List Expr → Nat
  | [] => 0
  | e :: es => e.calls + callsAll es

def callsNamed : Table Expr → Nat
  | [] => 0
  | (_, e) :: rest => e.calls + callsNamed rest

def callsEntries : List (Expr × Expr) → Nat
  | [] => 0
  | (key, value) :: rest => key.calls + value.calls + callsEntries rest

end

mutual

def Stmt.calls : Stmt → Nat
  | .assign _ e _ _ _ _ | .tupleUnpack _ e _ _ _ _ | .ret e _ | .expr e _ | .raise e _ => e.calls
  | .attrAssign obj _ value _ _ => obj.calls + value.calls
  | .subscriptAssign obj index value _ => obj.calls + index.calls + value.calls
  | .ifStmt condition thenBody elifs elseBody _ =>
    condition.calls + callsBlock thenBody + callsBranches elifs + callsBlock elseBody
  | .whileLoop e body _ | .forLoop _ e body _ | .withBlock e _ body _ => e.calls + callsBlock body
  | .breakLoop _ | .continueLoop _ | .pass _ | .other _ _ => 0
  | .tryBlock body handlers elseBody finallyBody _ =>
    callsBlock body + callsHandlers handlers + callsBlock elseBody + callsBlock finallyBody

def callsBlock : List Stmt → Nat
  | [] => 0
  | s :: rest => s.calls + callsBlock rest

def callsBranches : List Elif → Nat
  | [] => 0
  | (condition, body) :: rest => condition.calls + callsBlock body + callsBranches rest

def callsHandlers : List Handler → Nat
  | [] => 0
  | (_, _, body) :: rest => callsBlock body + callsHandlers rest

end

lemma callsBlock_append (body rest : List Stmt) :
    callsBlock (body ++ rest) = callsBlock body + callsBlock rest := by
  induction body with
  | nil => simp [callsBlock]
  | cons s body ih => simp [callsBlock, ih, Nat.add_assoc]

lemma callsNamed_eq_sum (args : Table Expr) : callsNamed args = (args.map (·.2.calls)).sum := by
  induction args with
  | nil => rfl
  | cons arg args ih => simp [callsNamed, ih]

lemma callsEntries_zip {keys values : List Expr} (h : keys.length = values.length) :
    callsEntries (keys.zip values) = callsAll keys + callsAll values := by
  induction keys generalizing values with
  | nil =>
    cases values with
    | nil => rfl
    | cons => cases h
  | cons key keys ih =>
    cases values with
    | nil => cases h
    | cons value values =>
      have hrest := ih (Nat.succ.inj h)
      simp only [zip_cons_cons, callsEntries, callsAll, hrest]
      omega

end IR

/-! ## Slips -/

namespace Lower

/-- A part of a source program that is not taken over exactly once. -/
inductive Slip where
  | dropped (e : Expr)
  | droppedBlock (body : List Syntax.Stmt)
  | doubled (e : Expr)

namespace Slip

def lost : List Slip → Nat
  | [] => 0
  | .dropped e :: slips => callsAmong e.parts + lost slips
  | .droppedBlock body :: slips => callsIn body + lost slips
  | .doubled _ :: slips => lost slips

def copied : List Slip → Nat
  | [] => 0
  | .doubled e :: slips => callsAmong e.parts + copied slips
  | _ :: slips => copied slips

@[simp] lemma lost_append (slips rest : List Slip) :
    lost (slips ++ rest) = lost slips + lost rest := by
  induction slips with
  | nil => simp [lost]
  | cons slip slips ih => cases slip <;> simp [lost, ih, Nat.add_assoc]

@[simp] lemma copied_append (slips rest : List Slip) :
    copied (slips ++ rest) = copied slips + copied rest := by
  induction slips with
  | nil => simp [copied]
  | cons slip slips ih => cases slip <;> simp [copied, ih, Nat.add_assoc]

/-- The slips of a format specification: only its fixed parts are kept. -/
def ofSpec : Option Expr → List Slip
  | none => []
  | some (.joinedStr values _) =>
    values.filterMap fun
      | .constant .. => none
      | e => some (.dropped e)
  | some e => [.dropped e]

mutual

/-- The slips of an expression. Expressions that are refused have none. -/
def ofExpr : Expr → List Slip
  | .boolOp _ e _ | .set e _ | .joinedStr e _ | .list e _ _ | .tuple e _ _ => ofExprs e
  | .binOp a _ b _ | .subscript a b _ _ => ofExpr a ++ ofExpr b
  | .unaryOp _ e _ | .await e _ | .attribute e _ _ _ => ofExpr e
  | .ifExp test body orelse _ => ofExpr test ++ ofExpr body ++ ofExpr orelse
  | .dict entries _ => ofKeys entries ++ ofValues entries
  | .listComp element generators _ => ofExpr element ++ ofGenerator generators
  | .compare left links _ => if links.isEmpty then [.dropped left] else ofExpr left ++ ofLinks links
  | .call func args keywords _ => ofExpr func ++ ofExprs args ++ ofKeywords keywords
  | .formattedValue value _ spec _ => ofExpr value ++ ofSpec spec
  | .slice lower upper step _ => ofOperand lower ++ ofOperand upper ++ ofOperand step
  | _ => []

def ofExprs : List Expr → List Slip
  | [] => []
  | e :: es => ofExpr e ++ ofExprs es

def ofOperand : Option Expr → List Slip
  | none => []
  | some e => ofExpr e

/-- The slips of a chain of comparisons: all operands but the last one stand in two comparisons. -/
def ofLinks : List (Syntax.CmpOp × Expr) → List Slip
  | [] => []
  | (_, e) :: rest =>
    (if rest.isEmpty then ofExpr e else .doubled e :: (ofExpr e ++ ofExpr e)) ++ ofLinks rest

/-- The slips of named arguments: a table that is spread is dropped, and so is an argument whose
name comes again. -/
def ofKeywords : List Keyword → List Slip
  | [] => []
  | .mk name value :: rest =>
    (match name.filter (· != "") with
      | some n =>
        if n ∈ rest.filterMap Keyword.given? then [.dropped value] else ofExpr value
      | none => [.dropped value]) ++ ofKeywords rest

def ofKeys : List (Option Expr × Expr) → List Slip
  | [] => []
  | (key, _) :: rest => ofOperand key ++ ofKeys rest

def ofValues : List (Option Expr × Expr) → List Slip
  | [] => []
  | (_, value) :: rest => ofExpr value ++ ofValues rest

def ofGenerator : List Generator → List Slip
  | .mk _ source conditions _ :: _ => ofExpr source ++ ofExprs conditions
  | [] => []

end

/-- The slips of the class of errors that a handler handles: only a name is taken over. -/
def ofErrorClass : Option Expr → List Slip
  | none => []
  | some (.name ..) => []
  | some (.attribute obj _ _ _) => [.dropped obj]
  | some e => [.dropped e]

mutual

def ofStmt : Syntax.Stmt → List Slip
  | .ret value _ => ofOperand value
  | .assign targets value _ => ofExprs targets ++ ofExpr value
  | .annAssign target _ value _ => ofExpr target ++ ofOperand value
  | .augAssign (.attribute obj _ _ _) _ value _ =>
    .doubled obj :: (ofExpr obj ++ ofExpr obj ++ ofExpr value)
  | .augAssign _ _ value _ | .expr value _ => ofExpr value
  | .forLoop _ e body orelse _ | .whileLoop e body orelse _ =>
    ofExpr e ++ ofBlock body ++ [.droppedBlock orelse]
  | .ifStmt test body orelse _ => ofExpr test ++ ofBlock body ++ ofBlock orelse
  | .withStmt items body _ => ofExprs (items.map Prod.fst) ++ ofBlock body
  | .raise error cause _ => ofOperand error ++ cause.toList.map .dropped
  | .tryStmt body handlers orelse finalBody _ =>
    ofBlock body ++ ofHandlers handlers ++ ofBlock orelse ++ ofBlock finalBody
  | _ => []

def ofBlock : List Syntax.Stmt → List Slip
  | [] => []
  | s :: rest => ofStmt s ++ ofBlock rest

def ofHandlers : List Syntax.Handler → List Slip
  | [] => []
  | (type, _, body) :: rest => ofErrorClass type ++ ofBlock body ++ ofHandlers rest

end

lemma lost_ofSpec (spec : Option Expr) : lost (ofSpec spec) = callsAmong (partsOption spec) := by
  unfold ofSpec
  split
  · rfl
  · next values line =>
    have hvalues : lost (values.filterMap fun
        | .constant .. => none
        | e => some (.dropped e)) = callsAmong (partsAll values) := by
      induction values with
      | nil => rfl
      | cons value values ih =>
        rw [filterMap_cons, partsAll, callsAmong_append, ← ih]
        cases value <;> simp [lost, Expr.parts, Expr.isCall]
    simp [hvalues, partsOption, Expr.parts, Expr.isCall]
  · simp [lost, partsOption]

lemma copied_ofSpec (spec : Option Expr) : copied (ofSpec spec) = 0 := by
  unfold ofSpec
  split
  · rfl
  · next values line =>
    induction values with
    | nil => rfl
    | cons value values ih =>
      rw [filterMap_cons]
      cases value <;> simpa [copied] using ih
  · rfl

lemma lost_ofErrorClass (type : Option Expr) :
    lost (ofErrorClass type) = callsAmong (partsOption type) := by
  unfold ofErrorClass
  split <;> simp [lost, partsOption, Expr.parts, Expr.isCall]

lemma copied_ofErrorClass (type : Option Expr) : copied (ofErrorClass type) = 0 := by
  unfold ofErrorClass
  split <;> rfl

end Slip

open Slip

def Balance (slips : List Slip) (source target : Nat) : Prop :=
  target + lost slips = source + copied slips

variable {source target line : Nat} {slips : List Slip} {name : Option String}

lemma Balance.append {rest : List Slip} {source' target' : Nat} (h : Balance slips source target)
    (h' : Balance rest source' target') :
    Balance (slips ++ rest) (source + source') (target + target') := by
  unfold Balance at *
  rw [lost_append, copied_append]
  omega

lemma Balance.of_eq {source' target' : Nat} (h : Balance slips source target)
    (hsource : source' = source) (htarget : target' = target) : Balance slips source' target' := by
  rwa [hsource, htarget]

attribute [local simp] Expr.parts Expr.isCall Syntax.Stmt.calls Syntax.Stmt.parts Syntax.Stmt.ownCalls
  Syntax.Stmt.exprs

/-! ## Expressions -/

lemma calls_foldl_binary (op : IR.BinOp) (line : IR.Line) (first : IR.Expr)
    (others : List IR.Expr) : (others.foldl (fun acc e => .binary op acc e line) first).calls =
      first.calls + IR.callsAll others := by
  induction others generalizing first with
  | nil => simp [IR.callsAll]
  | cons e others ih =>
    rw [foldl_cons, ih]
    simp [IR.Expr.calls, IR.callsAll, Nat.add_assoc]

lemma calls_joined (op : IR.BinOp) (line : Nat) (es : List IR.Expr) :
    (joined op line es).calls = IR.callsAll es := by
  cases es with
  | nil => rfl
  | cons first others => exact calls_foldl_binary op line first others

/-- The calls in the comparisons of a chain, without those in its first operand. -/
def callsChain : List (IR.BinOp × IR.Expr) → Nat
  | [] => 0
  | (_, e) :: rest => (if rest.isEmpty then e.calls else e.calls + e.calls) + callsChain rest

lemma callsAll_comparisons (line : Nat) (left : IR.Expr) (chain : List (IR.BinOp × IR.Expr)) :
    IR.callsAll (comparisons line left chain) =
      (if chain.isEmpty then 0 else left.calls) + callsChain chain := by
  induction chain generalizing left with
  | nil => rfl
  | cons link rest ih =>
    obtain ⟨op, right⟩ := link
    rw [comparisons, IR.callsAll, ih, callsChain, IR.Expr.calls]
    cases rest with
    | nil => simp [callsChain]
    | cons => simp only [isEmpty_cons]; simp; omega

/-- The parts of a comprehension that are taken over: those of its first generator. -/
def generatorParts : List Generator → List Expr
  | .mk _ source conditions _ :: _ => source.parts ++ partsAll conditions
  | [] => []

lemma generatorTarget_parts (line : Nat) (generators : List Generator) :
    Direct (fun _ => callsAmong (partsGenerators generators) =
      callsAmong (generatorParts generators)) (generatorTarget line generators) := by
  unfold generatorTarget
  split
  · next target source conditions isAsync =>
    split
    · next name hname =>
      refine .pure ?_
      have htarget : callsAmong target.parts = 0 := by
        cases target <;> simp_all [Expr.name?]
      simp [partsGenerators, generatorParts, htarget]
    · exact .unsupported _ _
  · exact .unsupported _ _

lemma callsAmong_entries (entries : List (Option Expr × Expr)) : callsAmong (partsEntries entries) =
      callsAmong (entries.flatMap fun entry => partsOption entry.1) +
        callsAmong (entries.flatMap fun entry => entry.2.parts) := by
  induction entries with
  | nil => rfl
  | cons entry entries ih =>
    rw [partsEntries]
    simp only [flatMap_cons, callsAmong_append, ih]
    omega

lemma formattedValue_balance {value : Expr} {conversion : Int} {spec : Option Expr}
    (h : Balance (ofExpr value) (callsAmong value.parts) target) :
    Balance (ofExpr (.formattedValue value conversion spec line))
      (callsAmong (Expr.parts (.formattedValue value conversion spec line))) target := by
  unfold Balance at *
  simp only [ofExpr, Expr.parts, Expr.isCall, lost_append, copied_append,
    Slip.lost_ofSpec, Slip.copied_ofSpec, callsAmong_cons, callsAmong_append,
    Bool.toNat_false]
  omega

lemma callsNamed_ofList (kwargs : Table IR.Expr) :
    IR.callsNamed (Table.ofList kwargs) = IR.callsNamed (Table.live kwargs) := by
  rw [IR.callsNamed_eq_sum, IR.callsNamed_eq_sum]
  exact ((Table.ofList_perm kwargs).map _).sum_nat

lemma call_balance {func : Expr} {args : List Expr} {named : List Keyword} {callee : Nat}
    {as : List IR.Expr} {kwargs : Table IR.Expr}
    (hfunc : Balance (ofExpr func) (callsAmong func.parts) callee)
    (hargs : Balance (ofExprs args) (callsAmong (partsAll args)) (IR.callsAll as))
    (hnamed : Balance (ofKeywords named) (callsAmong (partsKeywords named)) (IR.callsNamed
      (Table.live kwargs))) :
    Balance (ofExpr (.call func args named line)) (callsAmong (Expr.parts (.call func args named line)))
      (1 + callee + IR.callsAll as + IR.callsNamed (Table.ofList kwargs)) := by
  have hall := (hfunc.append hargs).append hnamed
  unfold Balance at *
  rw [callsNamed_ofList]
  simp only [ofExpr, Expr.parts, Expr.isCall, Bool.toNat_true, callsAmong_cons,
    callsAmong_append] at *
  omega

lemma ofKeywords_spread (h : name.filter (· != "") = none) (value : Expr) (rest : List Keyword) :
    ofKeywords (.mk name value :: rest) = [Slip.dropped value] ++ ofKeywords rest := by
  rw [ofKeywords, h]

lemma ofKeywords_given {n : String} (h : name.filter (· != "") = some n) (value : Expr)
    (rest : List Keyword) : ofKeywords (.mk name value :: rest) =
      (if n ∈ rest.filterMap Keyword.given? then [Slip.dropped value] else ofExpr value) ++
        ofKeywords rest := by
  rw [ofKeywords, h]

lemma dropped_balance (value : Expr) {rest : List Keyword}
    (h : Balance (ofKeywords rest) (callsAmong (partsKeywords rest)) target) :
    Balance ([Slip.dropped value] ++ ofKeywords rest)
      (callsAmong (partsKeywords (.mk name value :: rest))) target := by
  unfold Balance at *
  simp only [singleton_append, lost, copied, partsKeywords, callsAmong_append]
  omega

mutual

lemma expr_balance (e : Expr) :
    Direct (fun a => Balance (ofExpr e) (callsAmong e.parts) a.calls) (expr e) := by
  match e with
  | .constant .. | .name .. => exact .pure rfl
  | .binOp left op right line =>
    rw [expr]
    split
    · exact .unsupported _ _
    · refine (expr_balance left).bind fun l hl => (expr_balance right).bind fun r hr => .pure ?_
      exact (hl.append hr).of_eq (by simp) rfl
  | .unaryOp op operand line =>
    rw [expr]
    refine (expr_balance operand).bind fun o ho => .pure ?_
    exact ho.of_eq (by simp) rfl
  | .compare left chain line =>
    rw [expr]
    refine (expr_balance left).bind fun l hl => (links_balance chain).bind fun rest hrest => .pure ?_
    obtain ⟨hempty, hrest⟩ := hrest
    rw [calls_joined, callsAll_comparisons, hempty]
    cases chain with
    | nil =>
      show Balance [.dropped left] _ _
      simp_all [Balance, lost, copied, callsChain, partsLinks]
    | cons =>
      exact (hl.append hrest).of_eq (by simp) rfl
  | .boolOp op values line =>
    rw [expr]
    refine (exprs_balance values).bind fun es hes => .pure ?_
    exact hes.of_eq (by simp) (calls_joined _ _ _)
  | .call func args named line =>
    cases func with
    | «attribute» obj method use line' =>
      rw [expr]
      refine (exprs_balance args).bind fun as has => ?_
      refine (keywords_balance named).bind fun kwargs hkwargs => ?_
      refine (expr_balance obj).bind fun o ho => .pure ?_
      exact call_balance (ho.of_eq (by simp) rfl) has hkwargs.2
    | _ =>
      rw [expr]
      · refine (exprs_balance args).bind fun as has => ?_
        refine (keywords_balance named).bind fun kwargs hkwargs => ?_
        exact (expr_balance _).bind fun f hf => .pure (call_balance hf has hkwargs.2)
      · exact nofun
  | .attribute value attr use line =>
    rw [expr]
    refine (expr_balance value).bind fun obj hobj => .pure ?_
    exact hobj.of_eq (by simp) rfl
  | .subscript value index use line =>
    rw [expr]
    refine (expr_balance value).bind fun obj hobj => ?_
    refine (expr_balance index).bind fun place hplace => .pure ?_
    exact (hobj.append hplace).of_eq (by simp) rfl
  | .list elements use line | .tuple elements use line | .set elements line =>
    rw [expr]
    refine (exprs_balance elements).bind fun es hes => .pure ?_
    exact hes.of_eq (by simp) rfl
  | .dict entries line =>
    rw [expr]
    refine (keys_balance entries).bind fun ks hks => (values_balance entries).bind fun vs hvs => ?_
    have hlength : ks.length = vs.length := hks.1.trans hvs.1.symm
    refine .pure ((hks.2.append hvs.2).of_eq ?_ (IR.callsEntries_zip hlength))
    simp [callsAmong_entries]
  | .ifExp test body orelse line =>
    rw [expr]
    refine (expr_balance test).bind fun c hc => (expr_balance body).bind fun y hy => ?_
    refine (expr_balance orelse).bind fun n hn => .pure ?_
    exact ((hc.append hy).append hn).of_eq (by simp [Nat.add_assoc]) rfl
  | .listComp element generators line =>
    rw [expr]
    refine (generatorTarget_parts line generators).bind fun target htarget => ?_
    refine (expr_balance element).bind fun item hitem => ?_
    refine (generator_balance generators).bind fun source hsource => .pure ?_
    exact (hitem.append hsource).of_eq (by simp [htarget]) (Nat.add_assoc _ _ _)
  | .joinedStr parts line =>
    rw [expr]
    refine (formatParts_balance line parts).bind fun es hes => .pure ?_
    exact hes.of_eq (by simp) rfl
  | .formattedValue value conversion spec line =>
    rw [expr]
    exact (expr_balance value).imp fun _ => formattedValue_balance
  | .await value line =>
    rw [expr]
    refine (expr_balance value).bind fun a ha => .pure ?_
    exact ha.of_eq (by simp) rfl
  | .slice lower upper step line =>
    rw [expr]
    refine (operand_balance lower).bind fun l hl => (operand_balance upper).bind fun u hu => ?_
    refine (operand_balance step).bind fun s hs => .pure ?_
    exact ((hl.append hu).append hs).of_eq (by simp [Nat.add_assoc]) rfl
  | .namedExpr .. | .lambda .. | .setComp .. | .dictComp .. | .generatorExp .. | .yield ..
  | .yieldFrom .. | .starred .. => exact .unsupported _ _

lemma exprs_balance (es : List Expr) :
    Direct (fun as => Balance (ofExprs es) (callsAmong (partsAll es)) (IR.callsAll as))
      (exprs es) := by
  match es with
  | [] => exact .pure rfl
  | e :: es =>
    rw [exprs]
    refine (expr_balance e).bind fun first hfirst => (exprs_balance es).bind fun rest hrest => ?_
    exact .pure ((hfirst.append hrest).of_eq (by simp [partsAll]) rfl)

lemma operand_balance (e : Option Expr) :
    Direct (fun a => Balance (ofOperand e) (callsAmong (partsOption e)) a.calls) (operand e) := by
  match e with
  | none => exact .pure rfl
  | some e => exact expr_balance e

lemma links_balance (chain : List (Syntax.CmpOp × Expr)) :
    Direct (fun lowered => lowered.isEmpty = chain.isEmpty ∧
      Balance (ofLinks chain) (callsAmong (partsLinks chain)) (callsChain lowered))
      (links chain) := by
  match chain with
  | [] => exact .pure ⟨rfl, rfl⟩
  | (op, e) :: rest =>
    rw [links]
    refine (expr_balance e).bind fun right hright => (links_balance rest).bind fun later hlater => ?_
    obtain ⟨hempty, hlater⟩ := hlater
    refine .pure ⟨rfl, ?_⟩
    simp only [Balance, ofLinks, callsChain, partsLinks, hempty, callsAmong_append,
      lost_append, copied_append] at *
    cases rest.isEmpty
    · simp only [Bool.false_eq_true, if_false, lost, copied, lost_append, copied_append]
      omega
    · simp only [if_true]
      omega

lemma keywords_balance (named : List Keyword) :
    Direct (fun kwargs => Table.keys kwargs = named.filterMap Keyword.given? ∧
      Balance (ofKeywords named) (callsAmong (partsKeywords named))
        (IR.callsNamed (Table.live kwargs))) (keywords named) := by
  match named with
  | [] => exact .pure ⟨rfl, rfl⟩
  | .mk name value :: rest =>
    rw [keywords]
    cases hname : name.filter (· != "") with
    | none =>
      refine (keywords_balance rest).imp fun kwargs hkwargs => ⟨?_, ?_⟩
      · rw [hkwargs.1, filterMap_cons_none (show (Keyword.mk name value).given? = none from hname)]
      · rw [ofKeywords_spread hname]
        exact dropped_balance value hkwargs.2
    | some n =>
      refine (expr_balance value).bind fun first hfirst => ?_
      refine (keywords_balance rest).bind fun kwargs hkwargs => .pure ⟨?_, ?_⟩
      · rw [filterMap_cons_some (show (Keyword.mk name value).given? = some n from hname),
          ← hkwargs.1]
        rfl
      · rw [ofKeywords_given hname, Table.live, hkwargs.1]
        by_cases hagain : n ∈ rest.filterMap Keyword.given?
        · rw [if_pos hagain, if_pos hagain]
          exact dropped_balance value hkwargs.2
        · rw [if_neg hagain, if_neg hagain]
          exact (hfirst.append hkwargs.2).of_eq (by simp [partsKeywords]) rfl

lemma keys_balance (entries : List (Option Expr × Expr)) :
    Direct (fun ks => ks.length = entries.length ∧
      Balance (ofKeys entries) (callsAmong (entries.flatMap fun entry => partsOption entry.1))
        (IR.callsAll ks)) (keys entries) := by
  match entries with
  | [] => exact .pure ⟨rfl, rfl⟩
  | (some key, value) :: entries =>
    rw [keys]
    refine (expr_balance key).bind fun first hfirst => (keys_balance entries).bind fun rest hrest => ?_
    refine .pure ⟨congrArg (· + 1) hrest.1, ?_⟩
    exact (hfirst.append hrest.2).of_eq (by simp [partsOption]) rfl
  | (none, value) :: entries =>
    rw [keys]
    refine (keys_balance entries).bind fun rest hrest => ?_
    refine .pure ⟨congrArg (· + 1) hrest.1, ?_⟩
    exact hrest.2.of_eq (by simp [partsOption]) (Nat.zero_add _)

lemma values_balance (entries : List (Option Expr × Expr)) :
    Direct (fun vs => vs.length = entries.length ∧
      Balance (ofValues entries) (callsAmong (entries.flatMap fun entry => entry.2.parts))
        (IR.callsAll vs)) (values entries) := by
  match entries with
  | [] => exact .pure ⟨rfl, rfl⟩
  | (key, value) :: entries =>
    rw [values]
    refine (expr_balance value).bind fun first hfirst => ?_
    refine (values_balance entries).bind fun rest hrest => ?_
    refine .pure ⟨congrArg (· + 1) hrest.1, ?_⟩
    exact (hfirst.append hrest.2).of_eq (by simp) rfl

lemma generator_balance (generators : List Generator) :
    Direct (fun p => Balance (ofGenerator generators) (callsAmong (generatorParts generators))
      (p.1.calls + IR.callsAll p.2)) (generator generators) := by
  match generators with
  | [] => exact .pure rfl
  | .mk target source conditions isAsync :: rest =>
    rw [generator]
    refine (expr_balance source).bind fun items hitems => ?_
    refine (exprs_balance conditions).bind fun cs hcs => .pure ?_
    exact (hitems.append hcs).of_eq (by simp [generatorParts]) rfl

lemma formatParts_balance (line : Nat) (parts : List Expr) :
    Direct (fun es => Balance (ofExprs parts) (callsAmong (partsAll parts)) (IR.callsAll es))
      (formatParts line parts) := by
  match parts with
  | [] => exact .pure rfl
  | part :: rest =>
    have hpart := expr_balance part
    have hrest := formatParts_balance line rest
    rw [formatParts.eq_def]
    split
    · next hparts => cases hparts
    · next value kind line' parts hparts =>
      cases hparts
      refine hrest.bind fun es hes => .pure ?_
      exact hes.of_eq (by simp [partsAll]) (Nat.zero_add _)
    · next value conversion spec line' parts hparts =>
      cases hparts
      rw [expr] at hpart
      refine hpart.bind fun code hcode => hrest.bind fun es hes => .pure ?_
      refine (hcode.append hes).of_eq (by simp [partsAll, Nat.add_assoc]) ?_
      rw [IR.callsAll]
      split <;> rfl
    · next part' parts _ _ hparts =>
      cases hparts
      refine hpart.bind fun first hfirst => hrest.bind fun es hes => .pure ?_
      exact (hfirst.append hes).of_eq (by simp [partsAll]) rfl

end

/-! ## Marks of mutability keep calls -/

mutual

lemma calls_markStmt (s : IR.Stmt) (p : Pending) : (markStmt s p).1.calls = s.calls := by
  cases s with
  | assign target value annot declares mutable line =>
    rw [markStmt]
    cases declares <;> rfl
  | tupleUnpack targets value annots declares mutables line =>
    rw [markStmt]
    rfl
  | ifStmt condition thenBody elifs elseBody line =>
    rw [markStmt]
    show condition.calls + IR.callsBlock _ + _ + IR.callsBlock _ = _
    rw [callsBlock_markBlock thenBody, callsBlock_markBlock elseBody]
    rfl
  | forLoop target source body line | whileLoop source body line
  | withBlock source target body line =>
    rw [markStmt]
    exact congrArg (source.calls + ·) (callsBlock_markBlock body p)
  | tryBlock body handlers elseBody finallyBody line =>
    rw [markStmt]
    show IR.callsBlock _ + IR.callsHandlers _ + _ + IR.callsBlock _ = _
    rw [callsBlock_markBlock body, callsHandlers_markHandlers, callsBlock_markBlock finallyBody]
    rfl
  | _ => rfl

lemma callsBlock_markBlock (body : List IR.Stmt) (p : Pending) :
    IR.callsBlock (markBlock body p).1 = IR.callsBlock body := by
  cases body with
  | nil => rfl
  | cons s rest =>
    rw [markBlock]
    show IR.Stmt.calls _ + IR.callsBlock _ = _
    rw [calls_markStmt s, callsBlock_markBlock rest]
    rfl

lemma callsHandlers_markHandlers (handlers : List IR.Handler) (p : Pending) :
    IR.callsHandlers (markHandlers handlers p).1 = IR.callsHandlers handlers := by
  match handlers with
  | [] => rfl
  | (type, bound, body) :: rest =>
    rw [markHandlers]
    show IR.callsBlock _ + IR.callsHandlers _ = _
    rw [callsBlock_markBlock body, callsHandlers_markHandlers rest]
    rfl

end

/-! ## Statements -/

lemma unpackNames_calls (line : Nat) (elements : List Expr) :
    Gives (fun _ => ofExprs elements = [] ∧ callsAmong (partsAll elements) = 0)
      (unpackNames line elements) := by
  induction elements with
  | nil => exact .pure ⟨rfl, rfl⟩
  | cons e elements ih =>
    rw [unpackNames]
    cases e with
    | name id use line' =>
      refine .after fun _ => ih.bind fun names hnames => .pure ?_
      simp [ofExprs, ofExpr, partsAll, hnames]
    | _ => exact .throw _ _

lemma Balance.assign {target value : Expr} {t v : Nat}
    (htarget : Balance (ofExpr target) (callsAmong target.parts) t)
    (hvalue : Balance (ofExpr value) (callsAmong value.parts) v) :
    Balance (Slip.ofStmt (.assign [target] value line))
      (Syntax.Stmt.calls (.assign [target] value line)) (t + v) := by
  have hslips : Slip.ofStmt (.assign [target] value line) = ofExpr target ++ ofExpr value := by
    simp [Slip.ofStmt, ofExprs]
  rw [hslips]
  refine (htarget.append hvalue).of_eq ?_ rfl
  simp [partsAll]

lemma assign_balance (targets : List Expr) (value : Expr) (line : Nat) :
    Gives (fun s => Balance (Slip.ofStmt (.assign targets value line))
      (Syntax.Stmt.calls (.assign targets value line)) s.calls) (assign targets value line) := by
  unfold assign
  split
  · refine (expr_balance value).gives.bind fun lowered hvalue => ?_
    split
    · next obj attr use line' =>
      refine (expr_balance obj).gives.bind fun o ho => .pure ?_
      exact .assign (ho.of_eq (by simp) rfl) hvalue
    · next obj index use line' =>
      refine (expr_balance obj).gives.bind fun o ho => (expr_balance index).gives.bind fun i hi => .pure ?_
      exact .assign ((ho.append hi).of_eq (by simp) rfl) hvalue
    · next elements use line' =>
      refine (unpackNames_calls line elements).bind fun names hnames => .pure ?_
      have htarget : Balance (ofExpr (.tuple elements use line'))
          (callsAmong (Expr.parts (.tuple elements use line'))) 0 := by
        simp [Balance, ofExpr, hnames, lost, copied]
      exact (htarget.assign hvalue).of_eq rfl (Nat.zero_add _).symm
    · next id use line' =>
      refine .after fun declares => .pure ?_
      have htarget : Balance (ofExpr (.name id use line')) (callsAmong (Expr.parts (.name id use line')))
          0 := rfl
      exact (htarget.assign hvalue).of_eq rfl (Nat.zero_add _).symm
    · exact .throw _ _
  · exact .throw _ _

lemma hintedAssign_balance (target hint : Expr) (value : Option Expr) (line : Nat) :
    Gives (fun s => Balance (Slip.ofStmt (.annAssign target hint value line))
      (Syntax.Stmt.calls (.annAssign target hint value line)) s.calls)
      (hintedAssign target hint value line) := by
  have hcalls : Syntax.Stmt.calls (.annAssign target hint value line) =
      callsAmong target.parts + callsAmong (partsOption value) := by
    simp
  rw [hcalls]
  unfold hintedAssign
  split
  · next obj attr use line' =>
    refine (expr_balance obj).gives.bind fun o ho => .after fun type => ?_
    refine (operand_balance value).gives.bind fun lowered hvalue => .pure ?_
    exact (ho.append hvalue).of_eq (by simp) rfl
  · refine .after fun type => (operand_balance value).gives.bind fun lowered hvalue => ?_
    refine .after fun _ => .pure ?_
    exact hvalue.of_eq (by simp) rfl
  · exact .throw _ _

lemma update_balance (target : Expr) (op : Syntax.BinOp) (value : Expr) (line : Nat) :
    Direct (fun s => Balance (Slip.ofStmt (.augAssign target op value line))
      (Syntax.Stmt.calls (.augAssign target op value line)) s.calls)
      (update target op value line) := by
  have hcalls : Syntax.Stmt.calls (.augAssign target op value line) =
      callsAmong target.parts + callsAmong value.parts := by
    simp
  rw [hcalls]
  unfold update
  split
  · exact .unsupported _ _
  · refine (expr_balance value).bind fun right hright => ?_
    split
    · next obj attr use line' =>
      refine (expr_balance obj).bind fun o ho => .pure ?_
      -- The object stands in the target and in the updated value.
      unfold Balance at *
      simp only [Slip.ofStmt, lost, copied, lost_append, copied_append, Expr.parts,
        Expr.isCall, Bool.toNat_false, callsAmong_cons, IR.Stmt.calls, IR.Expr.calls]
      omega
    · exact .pure (hright.of_eq (by simp) (by simp [IR.Stmt.calls, IR.Expr.calls]))
    · exact .unsupported _ _

lemma loopTarget_calls (target : Expr) (line : Nat) :
    Direct (fun _ => callsAmong target.parts = 0) (loopTarget target line) := by
  unfold loopTarget
  cases target with
  | name id use line' => exact .pure rfl
  | _ => exact .unsupported _ _

lemma resource_balance (items : List (Expr × Option Expr)) (line : Nat) :
    Direct (fun p => Balance (ofExprs (items.map Prod.fst))
      (callsAmong (items.flatMap fun x => x.1.parts ++ partsOption x.2)) p.1.calls)
      (resource items line) := by
  unfold resource
  split
  · next context target =>
    refine (expr_balance context).bind fun lowered hlowered => ?_
    have hslips : ofExprs ([(context, target)].map Prod.fst) = ofExpr context := by
      simp [ofExprs]
    rw [hslips]
    split
    · exact .pure (hlowered.of_eq (by simp [partsOption]) rfl)
    · next e =>
      cases e with
      | name id use line' =>
        exact .pure (hlowered.of_eq (by simp [partsOption]) rfl)
      | _ => exact .unsupported _ _
  · exact .unsupported _ _

lemma Balance.droppedBlock (h : Balance slips source target) (body : List Syntax.Stmt) :
    Balance (slips ++ [Slip.droppedBlock body]) (source + callsIn body) target := by
  unfold Balance at *
  simp only [lost_append, copied_append, lost, copied]
  omega

lemma calls_ifStmt (test : Expr) (body orelse : List Syntax.Stmt) (line : Nat) :
    Syntax.Stmt.calls (.ifStmt test body orelse line) =
      callsAmong test.parts + callsIn body + callsIn orelse := by
  simp [callsIn, Nat.add_assoc]

lemma raise_balance {error cause : Option Expr}
    (h : Balance (ofOperand error) (callsAmong (partsOption error)) target) :
    Balance (Slip.ofStmt (.raise error cause line)) (Syntax.Stmt.calls (.raise error cause line))
      target := by
  unfold Balance at *
  cases cause <;>
    simp [Slip.ofStmt, lost, copied, partsOption] <;>
    omega

mutual

lemma stmt_balance (s : Syntax.Stmt) :
    Gives (fun o => Balance (Slip.ofStmt s) s.calls (IR.callsBlock o.toList)) (stmt s) := by
  cases s with
  | assign targets value line =>
    rw [stmt]
    exact (assign_balance targets value line).bind fun a ha => .pure ha
  | annAssign target hint value line =>
    rw [stmt]
    exact (hintedAssign_balance target hint value line).bind fun a ha => .pure ha
  | augAssign target op value line =>
    rw [stmt]
    exact (update_balance target op value line).gives.bind fun a ha => .pure ha
  | ret value line =>
    rw [stmt]
    refine (operand_balance value).gives.bind fun lowered hlowered => .pure (hlowered.of_eq ?_ rfl)
    simp
  | ifStmt test body orelse line =>
    rw [stmt]
    refine (expr_balance test).gives.bind fun condition hcondition => ?_
    refine (block_balance body).bind fun thenBody hthen => ?_
    refine (elseChain_balance orelse).bind fun rest hrest => .pure ?_
    refine ((hcondition.append hthen).append hrest).of_eq (calls_ifStmt test body orelse line) ?_
    simp [IR.callsBlock, IR.Stmt.calls, Nat.add_assoc]
  | whileLoop test body orelse line =>
    rw [stmt]
    refine (expr_balance test).gives.bind fun condition hcondition => ?_
    refine (block_balance body).bind fun lowered hlowered => .pure ?_
    refine ((hcondition.append hlowered).droppedBlock orelse).of_eq ?_ rfl
    simp [callsIn, Nat.add_assoc]
  | forLoop target source body orelse line =>
    rw [stmt]
    refine (loopTarget_calls target line).gives.bind fun name hname => ?_
    refine (expr_balance source).gives.bind fun items hitems => ?_
    refine (block_balance body).bind fun lowered hlowered => .pure ?_
    refine ((hitems.append hlowered).droppedBlock orelse).of_eq ?_ rfl
    simp [callsIn, Nat.add_assoc, hname]
  | withStmt items body line =>
    rw [stmt]
    refine (resource_balance items line).gives.bind fun opened hopened => ?_
    refine (block_balance body).bind fun lowered hlowered => .pure ?_
    refine (hopened.append hlowered).of_eq ?_ rfl
    simp [callsIn]
  | tryStmt body arms orelse finalBody line =>
    rw [stmt]
    refine (block_balance body).bind fun tryBody hbody => ?_
    refine (handlers_balance arms).bind fun lowered harms => ?_
    refine (block_balance orelse).bind fun elseBody helse => ?_
    refine (block_balance finalBody).bind fun finallyBody hfinally => .pure ?_
    refine (((hbody.append harms).append helse).append hfinally).of_eq ?_ rfl
    simp [callsIn, callsInHandlers]
    omega
  | raise error cause line =>
    rw [stmt]
    exact (operand_balance error).gives.bind fun lowered hlowered => .pure (raise_balance hlowered)
  | expr value line =>
    rw [stmt]
    refine (expr_balance value).gives.bind fun lowered hlowered => .pure (hlowered.of_eq ?_ rfl)
    simp
  | pass | breakLoop | continueLoop | importNames | importFrom => exact .pure rfl
  | functionDef | classDef | other => exact .throw _ _

lemma block_balance (body : List Syntax.Stmt) :
    Gives (fun lowered => Balance (Slip.ofBlock body) (callsIn body) (IR.callsBlock lowered))
      (block body) := by
  cases body with
  | nil => exact .pure rfl
  | cons s rest =>
    rw [block]
    refine (stmt_balance s).bind fun first hfirst => (block_balance rest).bind fun later hlater => ?_
    exact .pure ((hfirst.append hlater).of_eq (callsIn_cons s rest) (IR.callsBlock_append _ _))

lemma elseChain_balance (orelse : List Syntax.Stmt) :
    Gives (fun p => Balance (Slip.ofBlock orelse) (callsIn orelse)
      (IR.callsBranches p.1 + IR.callsBlock p.2)) (elseChain orelse) := by
  rw [elseChain.eq_def]
  split
  · exact .pure rfl
  · next test body orelse' line =>
    refine (expr_balance test).gives.bind fun condition hcondition => ?_
    refine (block_balance body).bind fun branch hbranch => ?_
    refine (elseChain_balance orelse').bind fun others hothers => .pure ?_
    have hslips : Slip.ofBlock [.ifStmt test body orelse' line] =
        ofExpr test ++ Slip.ofBlock body ++ Slip.ofBlock orelse' := by
      simp [Slip.ofBlock, Slip.ofStmt]
    rw [hslips]
    refine ((hcondition.append hbranch).append hothers).of_eq ?_ ?_
    · rw [callsIn_cons, calls_ifStmt]
      rfl
    · simp [IR.callsBranches, Nat.add_assoc]
  · refine (stmt_balance _).bind fun first hfirst => (block_balance _).bind fun later hlater => ?_
    exact .pure ((hfirst.append hlater).of_eq (callsIn_cons _ _)
      ((Nat.zero_add _).trans (IR.callsBlock_append _ _)))

lemma handlers_balance (arms : List (Option Expr × Option String × List Syntax.Stmt)) :
    Gives (fun lowered => Balance (Slip.ofHandlers arms)
      (callsAmong (arms.flatMap fun arm => partsOption arm.1) + callsInHandlers arms)
      (IR.callsHandlers lowered)) (handlers arms) := by
  match arms with
  | [] => exact .pure rfl
  | (type, bound, body) :: rest =>
    rw [handlers]
    refine (block_balance body).bind fun lowered hbody => ?_
    refine (handlers_balance rest).bind fun later hrest => .pure ?_
    have htype : Balance (Slip.ofErrorClass type) (callsAmong (partsOption type)) 0 := by
      simp [Balance, Slip.lost_ofErrorClass, Slip.copied_ofErrorClass]
    refine ((htype.append hbody).append hrest).of_eq ?_ ?_
    · simp only [flatMap_cons, callsAmong_append, callsInHandlers_cons]
      omega
    · simp [IR.callsHandlers]

end

/-! ## Functions -/

lemma splitDoc_rest (body : List Syntax.Stmt) : Slip.ofBlock (splitDoc body).2 = Slip.ofBlock body ∧
      callsIn (splitDoc body).2 = callsIn body := by
  cases body with
  | nil => exact ⟨rfl, rfl⟩
  | cons s rest =>
    rw [splitDoc]
    cases hdoc : s.docText? with
    | none => exact ⟨rfl, rfl⟩
    | some text =>
      have hs : Slip.ofStmt s = [] ∧ s.calls = 0 := by
        unfold Syntax.Stmt.docText? at hdoc
        split at hdoc
        · exact ⟨rfl, rfl⟩
        · cases hdoc
      rw [Slip.ofBlock, callsIn_cons, hs.1, hs.2]
      exact ⟨rfl, (Nat.zero_add _).symm⟩

/-- A function body has as many calls after lowering as before, but for those that its slips lose
and copy. -/
theorem lower_calls_balance (lines : List String) (d : FunctionDef) {s s' : Scopes}
    {f : IR.Function} (h : (d.lower lines).run s = .ok (f, s')) :
    IR.callsBlock f.body + lost (Slip.ofBlock d.body) =
      callsIn d.body + copied (Slip.ofBlock d.body) := by
  have hlower : Gives (fun f : IR.Function => Balance (Slip.ofBlock d.body) (callsIn d.body)
      (IR.callsBlock f.body)) (d.lower lines) := by
    unfold FunctionDef.lower inScope
    refine .after fun _ => Gives.bind ?_ fun f hf => .after fun _ => .pure hf
    refine .after fun attributes => .after fun params => .after fun result => ?_
    refine (block_balance (splitDoc d.body).2).bind fun body hbody => .pure ?_
    rw [(splitDoc_rest d.body).1, (splitDoc_rest d.body).2] at hbody
    exact hbody.of_eq rfl (callsBlock_markBlock body _)
  exact hlower h

/-- A function without parameters. -/
def plainFunction (body : List Syntax.Stmt) : FunctionDef where
  isAsync := false
  name := "f"
  params := .mk [] [] none [] [] none []
  body := body
  decorators := []
  returns := none
  line := 1

/-- A call without arguments. -/
def calling (name : String) (line : Nat) : Expr :=
  .call (.name name .load line) [] [] line

/-- `return hand(low() < mid() < high(), **more())` -/
def chainingFunction : FunctionDef :=
  plainFunction [.ret (some (.call (.name "hand" .load 2)
    [.compare (calling "low" 2) [(.lt, calling "mid" 2), (.lt, calling "high" 2)] 2]
    [.mk none (calling "more" 2)] 2)) 2]

/-- The call of the middle operand is copied, and the one in the spread table is lost. -/
theorem lower_calls_chainingFunction :
    ∃ f s', (chainingFunction.lower []).run {} = .ok (f, s') ∧
      lost (Slip.ofBlock chainingFunction.body) = 1 ∧
      copied (Slip.ofBlock chainingFunction.body) = 1 ∧
      IR.callsBlock f.body + lost (Slip.ofBlock chainingFunction.body) =
        callsIn chainingFunction.body + copied (Slip.ofBlock chainingFunction.body) :=
  ⟨_, _, rfl, by decide, by decide, lower_calls_balance (s := {}) [] chainingFunction rfl⟩

def loopingFunction : FunctionDef :=
  plainFunction [.whileLoop (calling "more" 2) [.pass 3] [.expr (calling "done" 5) 5] 2]

/-- The call in the `else` of a loop is lost without a fault. -/
theorem lower_calls_loopingFunction :
    (((loopingFunction.lower []).run {}).toOption.map fun p => IR.callsBlock p.1.body) = some 1 ∧
      callsIn loopingFunction.body = 2 := by
  decide

end Lower

end Oxidize
