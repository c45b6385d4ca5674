import Oxidize.Proofs.Emission.Calls

/-!
# Writing an expression

Writing an expression is built of quiet steps: it learns nothing about variables, and it names and
fails as its terms allow, if its calls have the arguments that they need (`expr_plain`). A call of a
name is written as a built-in function only if no mapping stands for the name.
-/

namespace Oxidize

open IR (Expr BinOp)
open Emitter

variable {T : Terms}

namespace Emit

/-! ## Function calls -/

/-- What is written is not the name of a built-in function that needs an argument, unless the
expression can be written so. A name is judged by the call that it stands in. -/
def Unlike (e : Expr) (code : String) : Prop :=
  e.name? = none → e.maybeBuiltin = false → code ∉ builtinWords

variable {code : String} {e' : Emitter}

lemma unlike_plain {C : Manner} {e : Expr} (h : isLetters code = false) :
    Plain C T (Unlike e) (Pure.pure code) :=
  .pure fun _ _ => notMem_builtinWords h

variable {e : Emitter} {n : String}

/-- A name that has no native counterpart is written as itself, or taken out of its option. -/
lemma run_nameValue (hnative : (e.run (nativeMapping? n none)).1 = .ok none)
    (hrun : (e.run (nameValue n)).1 = .ok code) : code = n ∨ isLetters code = false := by
  unfold nameValue at hrun
  rw [run_bind_ok (run_context e)] at hrun
  split at hrun
  · cases hrun
    exact .inr (by simp [isLetters, toString])
  · rcases hmapping : e.run (nativeMapping? n none) with ⟨result, e'⟩
    rw [hmapping] at hnative
    cases hnative
    rw [run_bind_ok hmapping] at hrun
    cases hrun
    exact .inl rfl

variable {texts : List String}

/-- A name for which no call was found by its mapping has no native counterpart. -/
lemma nativeMapping?_of_importedCall (hrun : e.run (importedCall n texts) = (.ok none, e')) :
    (e.run (nativeMapping? n none)).1 = .ok none := by
  unfold importedCall at hrun
  obtain ⟨code, e₁, hcall, hrest⟩ := of_run_bind hrun
  cases code with
  | some code => cases hrest
  | none =>
    unfold nativeCall at hcall
    obtain ⟨found, e₂, hfound, hmatch⟩ := of_run_bind hcall
    cases found with
    | none => rw [hfound]
    | some m =>
      obtain ⟨text, e₃, -, hsome⟩ := of_run_bind hmatch
      cases hsome

/-- The mapped call of a name, or what the name is written as if it has none. -/
def calledName (n : String) (texts : List String) : Emit (String ⊕ String) := do
  match ← importedCall n texts with
  | some code => return .inl code
  | none => return .inr (← nameValue n)

lemma call_name (n : String) (line : IR.Line) (args : List Expr) (texts : List String)
    (kwargs : List (String × Emit String)) : call (.name n line) (nameValue n) args texts kwargs =
      calledName n texts >>=
        Sum.elim pure fun func => writtenCall (.name n line) func args texts := by
  unfold call calledName mappedFunction
  rw [bind_assoc]
  refine bind_congr fun found => ?_
  cases found with
  | some code => rfl
  | none =>
    show nameValue n >>= _ = (nameValue n >>= _) >>= _
    rw [bind_assoc]
    rfl

/-- A name that is called without a mapping for it is written as itself, or taken out of its
option. -/
lemma run_calledName {a : String ⊕ String} (h : e.run (calledName n texts) = (.ok a, e')) :
    ∀ code, a = .inr code → code = n ∨ isLetters code = false := by
  unfold calledName at h
  obtain ⟨found, e₁, hcall, h⟩ := of_run_bind h
  cases found with
  | some code =>
    cases h
    exact nofun
  | none =>
    obtain ⟨code, e₂, hname, h⟩ := of_run_bind h
    cases h
    rintro _ ⟨⟩
    have hkin : e.Kin e₁ := by
      have := (importedCall_plain (T := .free) n texts).kin_run e
      rwa [hcall] at this
    have hnative : (e₁.run (nativeMapping? n none)).1 = .ok none := by
      rw [(nativeMapping?_plain n none).result_congr hkin]
      exact nativeMapping?_of_importedCall hcall
    exact run_nameValue hnative (congrArg Prod.fst hname)

lemma callName_plain {line : IR.Line} (args : List Expr)
    (h : ¬ T.errors .missingArgument → n ∈ builtinWords → 0 < texts.length)
    (kwargs : List (String × Emit String)) :
    Mild T (call (.name n line) (nameValue n) args texts kwargs) := by
  rw [call_name]
  -- What the name is written as is known only together with the search for a mapping.
  refine Acts.bind (P := fun a => ∀ code, a = .inr code → code = n ∨ isLetters code = false)
    (.known (P := Any) ?_ fun _ _ _ hrun _ => run_calledName hrun) fun a ha => ?_
  · unfold calledName
    exact .orElse (importedCall_plain n texts) ((nameValue_plain n).map) fun _ => rfl
  · cases a with
    | inl code => exact .done
    | inr code =>
      refine writtenCall_plain _ args fun hE hmem => ?_
      rcases ha code rfl with rfl | hletters
      · exact h hE hmem
      · exact absurd hmem (notMem_builtinWords hletters)

lemma call_plain {func : Expr} {emitFunc : Emit String} (hfunc : Plain .light T (Unlike func) emitFunc)
    (hname : ∀ n line, func = .name n line → emitFunc = nameValue n) (args : List Expr) {kwargs : List (String × Emit String)}
    (hkw : ∀ kw ∈ kwargs, Mild T kw.2)
    (h : ¬ T.errors .missingArgument → func.maybeBuiltin = true → 0 < texts.length) :
    Mild T (call func emitFunc args texts kwargs) := by
  by_cases hn : ∃ n line, func = .name n line
  · obtain ⟨n, line, rfl⟩ := hn
    rw [hname n line rfl]
    exact callName_plain args (fun hE hmem => h hE (List.contains_iff_mem.2 hmem)) kwargs
  · unfold call
    refine .orElse (mappedFunction_plain func texts hkw) ?_ fun _ => rfl
    refine hfunc.bind fun code hcode => writtenCall_plain func args fun hE hmem => ?_
    refine h hE (Bool.not_eq_false _ ▸ fun hbuiltin => ?_)
    refine hcode ?_ hbuiltin hmem
    cases func with
    | name n line => exact absurd ⟨n, line, rfl⟩ hn
    | _ => rfl

/-! ## Expressions -/

variable {emitBound : Emit String}

lemma comparedSearch_plain (op : BinOp) {parts : Option (Emit String × Emit String)}
    (hparts : ∀ p ∈ parts, Mild T p.1 ∧ Mild T p.2)
    (hbound : Mild T emitBound) :
    Plain .light T (fun found => ∀ code ∈ found, isLetters code = false)
      (comparedSearch op parts emitBound) := by
  unfold comparedSearch
  split
  · obtain ⟨hobj, harg⟩ := hparts _ rfl
    refine hbound.bind fun bound _ => ?_
    split
    · refine hobj.bind fun obj _ => ?_
      exact harg.bind fun arg _ => .pure fun code hcode => isLetters_searchComparison hcode
    · exact .pure nofun
  · exact .pure nofun

lemma bound_plain (e : Expr) (hbound : Mild T emitBound) : Mild T (bound e emitBound) := by
  unfold bound
  split
  · exact .done
  · exact hbound

mutual

/-- Writing an expression whose calls have their arguments never lacks one. -/
lemma expr_plain (e : Expr) (h : T.Supplies e.isSupplied) : Plain .light T (Unlike e) (expr e) := by
  match e with
  | .absent =>
    rw [expr]
    exact unlike_plain rfl
  | .other .. | .slice .. | .formatted .. =>
    rw [expr]
    exact unlike_plain (isLetters_unsupported _)
  | .literal value _ =>
    rw [expr]
    refine .pure fun _ hbuiltin hmem => ?_
    rw [IR.Expr.maybeBuiltin, List.contains_iff_mem.2 hmem] at hbuiltin
    cases hbuiltin
  | .name n _ =>
    rw [expr]
    exact (nameValue_plain n).known fun _ _ _ _ _ => nofun
  | .binary op left right _ =>
    obtain ⟨hleft, hright⟩ := h.parts
    rw [expr]
    refine (comparedSearch_plain op (searched_plain left hleft) (expr_plain right hright).any).bind
      fun code hcode => ?_
    split
    · exact unlike_plain (hcode _ rfl)
    refine (expr_plain left hleft).bind fun leftCode _ => ?_
    refine (expr_plain right hright).bind fun rightCode _ => ?_
    exact .read rfl fun c _ => unlike_plain (isLetters_operation ..)
  | .unary op operand _ =>
    rw [expr]
    exact (expr_plain operand h).bind fun _ _ => unlike_plain (isLetters_unarySymbol ..)
  | .call func args kwargs _ =>
    obtain ⟨h, hneeded⟩ := h.parts
    obtain ⟨h, hkwargs⟩ := h.parts
    obtain ⟨hfunc, hargs⟩ := h.parts
    rw [expr]
    refine Acts.known (P := Any) ?_ fun _ _ _ _ _ _ hbuiltin => nomatch hbuiltin
    refine (exprs_plain args hargs).bind fun texts htexts => ?_
    refine call_plain (expr_plain func hfunc) (fun n line hn => ?_) args
      (namedExprs_plain kwargs hkwargs) fun hE hbuiltin => ?_
    · rw [hn, expr]
    · have hnonempty := hneeded hE
      rw [hbuiltin] at hnonempty
      rw [htexts]
      cases args with
      | nil => cases hnonempty
      | cons => exact Nat.succ_pos _
  | .method obj method args kwargs _ =>
    obtain ⟨h, hneeded⟩ := h.parts
    obtain ⟨h, hkwargs⟩ := h.parts
    obtain ⟨hobj, hargs⟩ := h.parts
    rw [expr]
    refine Acts.known (P := Any) ?_ fun _ _ _ _ _ _ hbuiltin => nomatch hbuiltin
    refine (exprs_plain args hargs).bind fun texts htexts => ?_
    refine MethodCall.emit_plain
      ⟨(expr_plain obj hobj).any, namedExprs_plain kwargs hkwargs, fun hE => ?_⟩
    show neededArguments method ≤ texts.length
    rw [htexts]
    exact of_decide_eq_true (hneeded hE)
  | .attr obj member _ =>
    rw [expr]
    refine Acts.known (P := Any) ?_ fun _ _ _ _ _ _ hbuiltin => nomatch hbuiltin
    exact field_plain obj (expr_plain obj h).any member
  | .subscript obj index _ =>
    obtain ⟨hobj, hindex⟩ := h.parts
    by_cases hslice : ∃ lower upper step line, index = .slice lower upper step line
    · obtain ⟨lower, upper, step, line, rfl⟩ := hslice
      obtain ⟨hlower, hupper⟩ := hindex.parts
      rw [expr]
      refine (expr_plain obj hobj).bind fun objCode _ => ?_
      refine (bound_plain lower (expr_plain lower hlower).any).bind fun lowerCode _ => ?_
      refine (bound_plain upper (expr_plain upper hupper).any).bind fun upperCode _ => ?_
      exact unlike_plain (isLetters_slice ..)
    · rw [expr]
      · refine (expr_plain obj hobj).bind fun objCode _ => ?_
        refine (expr_plain index hindex).bind fun indexCode _ => ?_
        exact .read rfl fun c _ => unlike_plain (isLetters_item ..)
      · intro lower upper step line heq
        exact hslice ⟨lower, upper, step, line, heq⟩
  | .list elements _ | .set elements _ | .tuple elements _ =>
    rw [expr]
    exact (exprs_plain elements h).bind fun _ _ => unlike_plain (by simp [isLetters, toString])
  | .dict entries _ =>
    rw [expr]
    split
    · exact unlike_plain (by simp [isLetters])
    · exact (pairs_plain entries h).bind
        fun _ _ => unlike_plain (by simp [isLetters, toString])
  | .ifExp condition yes no _ =>
    obtain ⟨h, hno⟩ := h.parts
    obtain ⟨hcondition, hyes⟩ := h.parts
    rw [expr]
    refine (expr_plain condition hcondition).bind fun cond _ => ?_
    refine (expr_plain yes hyes).bind fun yesCode _ => ?_
    exact (expr_plain no hno).bind fun noCode _ => unlike_plain (by simp [isLetters])
  | .listComp element target source conditions _ =>
    obtain ⟨h, hconditions⟩ := h.parts
    obtain ⟨hsource, helement⟩ := h.parts
    rw [expr]
    refine (expr_plain source hsource).bind fun sourceCode _ => ?_
    refine (expr_plain element helement).bind fun elementCode _ => ?_
    exact (exprs_plain conditions hconditions).bind
      fun _ _ => unlike_plain (isLetters_comprehension ..)
  | .fstring parts _ =>
    rw [expr]
    exact (formatParts_plain parts h).bind fun _ _ => unlike_plain (isLetters_formatCall _)
  | .await value _ =>
    rw [expr]
    exact (expr_plain value h).bind fun _ _ => unlike_plain (isLetters_awaited _)

lemma exprs_plain (es : List Expr) (h : T.Supplies (IR.allSupplied es)) :
    Plain .light T (fun texts => texts.length = es.length) (exprs es) := by
  match es with
  | [] =>
    rw [exprs]
    exact .pure rfl
  | e :: es =>
    obtain ⟨he, hes⟩ := h.parts
    rw [exprs]
    refine (expr_plain e he).bind fun code _ => ?_
    exact (exprs_plain es hes).bind fun codes hcodes => .pure (by simp [hcodes])

lemma pairs_plain (entries : List (Expr × Expr)) (h : T.Supplies (IR.entriesSupplied entries)) :
    Mild T (pairs entries) := by
  match entries with
  | [] =>
    rw [pairs]
    exact .done
  | (key, value) :: entries =>
    obtain ⟨h, hentries⟩ := h.parts
    obtain ⟨hkey, hvalue⟩ := h.parts
    rw [pairs]
    refine (expr_plain key hkey).bind fun keyCode _ => ?_
    refine (expr_plain value hvalue).bind fun valueCode _ => ?_
    exact (pairs_plain entries hentries).map

lemma namedExprs_plain (kwargs : Table Expr)
    (h : T.Supplies (IR.namedSupplied kwargs)) :
    ∀ kw ∈ namedExprs kwargs, Mild T kw.2 := by
  match kwargs with
  | [] =>
    rw [namedExprs]
    exact nofun
  | (name, value) :: others =>
    obtain ⟨hvalue, hothers⟩ := h.parts
    rw [namedExprs]
    intro kw hkw
    rcases List.mem_cons.1 hkw with rfl | hkw
    · exact (expr_plain value hvalue).any
    · exact namedExprs_plain others hothers kw hkw

lemma searched_plain (e : Expr) (h : T.Supplies e.isSupplied) :
    ∀ parts ∈ searched e, Mild T parts.1 ∧ Mild T parts.2 := by
  intro parts hparts
  rw [searched.eq_def] at hparts
  split at hparts
  · split at hparts
    · cases hparts
      exact ⟨(expr_plain _ h.parts.1.parts.1.parts.1).any, .done⟩
    · cases hparts
  · obtain ⟨hobj, hargs⟩ := h.parts.1.parts.1.parts
    split at hparts
    · cases hparts
      exact ⟨(expr_plain _ hobj).any, (expr_plain _ hargs.parts.1).map⟩
    · cases hparts
  · cases hparts

lemma formatParts_plain (parts : List Expr) (h : T.Supplies (IR.allSupplied parts)) :
    Mild T (formatParts parts) := by
  rw [formatParts.eq_def]
  split
  · exact .done
  · exact (formatParts_plain _ h.parts.2).map
  · rw [IR.allSupplied, IR.Expr.isSupplied] at h
    refine (expr_plain _ h.parts.1).bind fun code _ => ?_
    exact (formatParts_plain _ h.parts.2).map
  · refine (expr_plain _ h.parts.1).bind fun code _ => ?_
    exact (formatParts_plain _ h.parts.2).map

end

/-! ## Expressions on free terms -/

lemma expr_free (e : Expr) : Mild .free (expr e) :=
  (expr_plain e .free).any

lemma exprs_free (es : List Expr) : Mild .free (exprs es) :=
  (exprs_plain es .free).any

lemma namedExprs_free (kwargs : Table Expr) : ∀ kw ∈ namedExprs kwargs, Mild .free kw.2 :=
  namedExprs_plain kwargs .free

end Emit

end Oxidize
