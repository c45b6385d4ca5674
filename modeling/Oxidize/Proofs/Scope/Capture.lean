import Oxidize.Proofs.Flow.Shadowing
import Oxidize.Proofs.Scope.Unused

/-!
# What names stand for

A variable that is not used is bound with an underscore in front of its name, whether or not the new
name stands for something else already. Written code is walked with what each visible name stands
for, and every use of a name gets the meaning of the last binding of the name that is visible there.
In the body of every function these meanings can be read off the statements, and a name that is
bound there stands for the variable of that name. The exceptions are the names that the code makes
up for its own values, and the new names of unused variables where the program uses these names
itself (`meaning_of_use`).
-/

namespace Oxidize

open IR List

namespace Meanings

def look (scope : Meanings) (names : List String) : Meanings :=
  names.map fun n => (n, (scope.lookup n).getD .outer)

lemma mem_look {scope : Meanings} {names : List String} {u : String × Meaning}
    (h : u ∈ scope.look names) : (u.2 = .outer ∨ u ∈ scope) ∧ u.1 ∈ names := by
  obtain ⟨n, hn, rfl⟩ := mem_map.1 h
  refine ⟨?_, hn⟩
  cases hlookup : scope.lookup n with
  | none => exact .inl rfl
  | some meaning =>
    obtain ⟨before, after, rfl, -⟩ := lookup_eq_some_iff.1 hlookup
    exact .inr (by simp)

end Meanings

/-! ## Uses in written code -/

namespace Code

open Meanings

mutual

/-- The names that a statement reads or assigns, with what they stand for if `scope` is visible
before it. -/
def uses (scope : Meanings) : Code → Meanings
  | .line parts _ | .leave parts _ => scope.look (IR.freeAll (parts.map Written.source))
  | .hoist .. | .breakLoop | .continueLoop => []
  | .declare _ _ _ _ _ value => scope.look (IR.freeAll (value.toList.map Written.source))
  | .unpack _ _ value => scope.look value.source.free
  | .assign name _ value => scope.look (name :: value.source.free)
  | .choice branches otherwise => branchUses scope branches ++ blockUses scope otherwise
  | .whileLoop condition body => scope.look condition.source.free ++ blockUses scope body
  | .forLoop target name items body =>
    scope.look items.source.free ++ blockUses ((name, .var target) :: scope) body
  | .scope body _ => blockUses scope body
  | .attempt call value okBody error errBody =>
    scope.look call.source.free ++ (blockUses (ofBinds (successBinds value) ++ scope) okBody
      ++ blockUses (ofError error :: scope) errBody)

def blockUses (scope : Meanings) : List Code → Meanings
  | [] => []
  | c :: cs => c.uses scope ++ blockUses (c.meanings ++ scope) cs

def branchUses (scope : Meanings) : List Branch → Meanings
  | [] => []
  | (head, body) :: branches =>
    scope.look head.free ++ blockUses (ofBinds head.binds ++ scope) body ++ branchUses scope branches

end

lemma meanings_erase (c : Code) : c.erase.meanings = c.meanings := by
  cases c with
  | unpack targets types value => exact congrArg ofBinds (binds_erase (.unpack targets types value))
  | _ => rfl

mutual

lemma uses_erase (scope : Meanings) (c : Code) : c.erase.uses scope = c.uses scope := by
  match c with
  | .line parts _ | .leave parts _ => rw [erase, uses, uses, Flow.map_source_erase]
  | .declare _ _ _ _ _ value => cases value <;> rfl
  | .choice branches otherwise =>
    rw [erase, uses, uses, branchUses_erase _ branches, blockUses_erase _ otherwise]
  | .whileLoop _ body | .forLoop _ _ _ body =>
    rw [erase, uses, uses, blockUses_erase _ body]
    rfl
  | .scope body _ => rw [erase, uses, uses, blockUses_erase _ body]
  | .attempt _ value okBody _ errBody =>
    rw [erase, uses, uses, successBinds_erase, blockUses_erase _ okBody, blockUses_erase _ errBody]
    rfl
  | .hoist .. | .unpack .. | .assign .. | .breakLoop | .continueLoop => rfl

lemma blockUses_erase (scope : Meanings) (cs : List Code) :
    blockUses scope (eraseBlock cs) = blockUses scope cs := by
  match cs with
  | [] => rfl
  | c :: cs =>
    rw [eraseBlock, blockUses, blockUses, uses_erase _ c, meanings_erase, blockUses_erase _ cs]

lemma branchUses_erase (scope : Meanings) (branches : List Branch) :
    branchUses scope (eraseBranches branches) = branchUses scope branches := by
  match branches with
  | [] => rfl
  | (head, body) :: branches =>
    rw [eraseBranches, branchUses, branchUses, head.binds_erase, blockUses_erase _ body,
      branchUses_erase _ branches]
    cases head <;> rfl

end

end Code

/-! ## Uses stand for what is bound -/

namespace IR

mutual

lemma free_sublist (e : Expr) : e.free.Sublist e.names := by
  match e with
  | .absent | .literal .. | .name .. | .other .. => exact .refl _
  | .binary _ left right _ | .subscript left right _ =>
    exact (free_sublist left).append (free_sublist right)
  | .unary _ e _ | .attr e _ _ | .formatted e _ _ | .await e _ => exact free_sublist e
  | .call e args kwargs _ | .method e _ args kwargs _ =>
    exact ((free_sublist e).append (freeAll_sublist args)).append (freeNamed_sublist kwargs)
  | .slice a b c _ | .ifExp a b c _ =>
    exact ((free_sublist a).append (free_sublist b)).append (free_sublist c)
  | .list es _ | .set es _ | .tuple es _ | .fstring es _ => exact freeAll_sublist es
  | .dict entries _ => exact freeEntries_sublist entries
  | .listComp element _ source conditions _ =>
    rw [Expr.free, Expr.names, append_assoc]
    exact (free_sublist source).append
      (filter_sublist.trans ((free_sublist element).append (freeAll_sublist conditions)))

lemma freeAll_sublist (es : List Expr) : (freeAll es).Sublist (namesAll es) := by
  match es with
  | [] => exact .refl _
  | e :: es => exact (free_sublist e).append (freeAll_sublist es)

lemma freeNamed_sublist (kwargs : Table Expr) : (freeNamed kwargs).Sublist (namesNamed kwargs) := by
  match kwargs with
  | [] => exact .refl _
  | (_, e) :: rest => exact (free_sublist e).append (freeNamed_sublist rest)

lemma freeEntries_sublist (entries : List (Expr × Expr)) :
    (freeEntries entries).Sublist (namesEntries entries) := by
  match entries with
  | [] => exact .refl _
  | (k, v) :: rest =>
    exact ((free_sublist k).append (free_sublist v)).append (freeEntries_sublist rest)

end

end IR

/-- The use is of a name that code mentions or assigns, and it stands for what is visible. -/
structure Traced (visible : Meanings) (t : Trace) (u : String × Meaning) : Prop where
  meaning : u.2 = .outer ∨ u ∈ visible
  name : u.1 ∈ t.mentions ∨ u.1 ∈ t.assigned

namespace Traced

variable {visible : Meanings} {s t : Trace} {u : String × Meaning}

lemma left (h : Traced visible s u) : Traced visible (s ++ t) u :=
  ⟨h.meaning, h.name.imp (mem_append_left _) (mem_append_left _)⟩

lemma right (h : Traced visible t u) : Traced visible (s ++ t) u :=
  ⟨h.meaning, h.name.imp (mem_append_right _) (mem_append_right _)⟩

lemma widen {more : Meanings} (h : Traced visible t u) (hmore : visible ⊆ more) : Traced more t u :=
  ⟨h.meaning.imp_right fun hu => hmore hu, h.name⟩

lemma expr {e : Expr} (h : u ∈ visible.look e.free) : Traced visible (.ofExpr e) u :=
  have ⟨hmeaning, hname⟩ := Meanings.mem_look h
  ⟨hmeaning, .inl ((free_sublist e).subset hname)⟩

lemma all {es : List Expr} (h : u ∈ visible.look (freeAll es)) :
    Traced visible { mentions := namesAll es } u :=
  have ⟨hmeaning, hname⟩ := Meanings.mem_look h
  ⟨hmeaning, .inl ((freeAll_sublist es).subset hname)⟩

lemma head {head : Head} (h : u ∈ visible.look head.free) :
    Traced visible { mentions := head.mentions } u := by
  cases head with
  | test condition => exact expr h
  | pattern _ vars =>
    have ⟨hmeaning, hname⟩ := Meanings.mem_look h
    exact ⟨hmeaning, .inl hname⟩

end Traced

namespace Code

lemma meanings_subset_bound (c : Code) : c.meanings ⊆ c.bound := by
  cases c <;> simp [meanings, bound, binds, Meanings.ofBinds]

variable {u : String × Meaning}

mutual

lemma traced_uses {scope : Meanings} {c : Code} (h : u ∈ c.uses scope) :
    Traced (c.bound ++ scope) c.trace u := by
  match c with
  | .line .. | .leave .. => exact .all h
  | .hoist .. | .breakLoop | .continueLoop => cases h
  | .declare _ source? _ _ _ value =>
    refine .right (Traced.expr ?_ |>.widen (subset_append_right ..))
    cases value with
    | none => exact h
    | some w => simpa [uses, freeAll] using h
  | .unpack .. => exact Traced.expr h |>.widen (subset_append_right ..)
  | .assign name _ value =>
    have ⟨hmeaning, hname⟩ := Meanings.mem_look h
    refine ⟨hmeaning, ?_⟩
    rcases mem_cons.1 hname with hname | hname
    · exact .inr (mem_append_left _ (hname ▸ .head _))
    · exact .inl ((free_sublist value.source).subset hname)
  | .choice branches otherwise =>
    rcases mem_append.1 h with h | h
    · exact .left ((traced_branchUses h).widen (by simp [bound]))
    · exact .right ((traced_blockUses h).widen (by simp [bound]))
  | .whileLoop condition body =>
    rcases mem_append.1 h with h | h
    · exact .left ((Traced.expr h).widen (by simp))
    · exact .right (traced_blockUses h)
  | .forLoop target name items body =>
    rcases mem_append.1 h with h | h
    · exact .right (.left ((Traced.expr h).widen (by simp)))
    · exact .right (.right ((traced_blockUses h).widen (by simp [bound])))
  | .scope body _ => exact traced_blockUses h
  | .attempt call value okBody error errBody =>
    rcases mem_append.1 h with h | h
    · exact .left ((Traced.expr h).widen (by simp))
    rcases mem_append.1 h with h | h
    · exact .right (.left ((traced_blockUses h).widen (by grind [bound])))
    · exact .right (.right ((traced_blockUses h).widen (by grind [bound])))

lemma traced_blockUses {scope : Meanings} {cs : List Code} (h : u ∈ blockUses scope cs) :
    Traced (blockBound cs ++ scope) (blockTrace cs) u := by
  match cs with
  | [] => cases h
  | c :: cs =>
    rcases mem_append.1 h with h | h
    · exact .left ((traced_uses h).widen (by simp [blockBound]))
    · exact .right ((traced_blockUses h).widen (by grind [blockBound, c.meanings_subset_bound]))

lemma traced_branchUses {scope : Meanings} {branches : List Branch}
    (h : u ∈ branchUses scope branches) :
    Traced (branchBound branches ++ scope) (branchTrace branches) u := by
  match branches with
  | [] => cases h
  | (head, body) :: branches =>
    rcases mem_append.1 h with h | h
    · rcases mem_append.1 h with h | h
      · exact .left (.left ((Traced.head h).widen (by simp)))
      · exact .left (.right ((traced_blockUses h).widen (by grind [branchBound])))
    · exact .right ((traced_branchUses h).widen (by simp [branchBound]))

end

end Code

/-! ## The body of a function -/

/-- In the written body of a function, what the used names stand for is decided by the outline of
the body. A name stands for something outside or for the variable of that name, unless it is a name
of the code's own, or the name with an underscore in front of a variable that the body assigns once.
In the last case the body itself uses that name. -/
theorem meaning_of_use {params : List Param} {result : Option Ty} {inResult : Bool}
    {body : List Stmt} {e : Emitter} {codes : List Code}
    (h : (e.run (Emit.functionBody params result inResult body)).1 = .ok codes) :
    Code.blockUses (.ofBinds (parameterBinds params)) codes =
        Code.blockUses (.ofBinds (parameterBinds params))
          (Outline.block (e.ctx.toFacts.enter params body) [] body 0).codes ∧
      ∀ name meaning, (name, meaning) ∈ Code.blockUses (.ofBinds (parameterBinds params)) codes →
        meaning = .outer ∨ meaning = .var name ∨ (meaning = .own ∧ name ∈ ownNames) ∨
        ∃ x, meaning = .var x ∧ name = "_" ++ x ∧ (IR.blockAssigned body).count x = 1 ∧
          (name ∈ IR.blockReads body ∨ name ∈ IR.blockUnseen body ∨ name ∈ IR.blockAssigned body) := by
  rw [← Code.blockUses_erase, Emit.functionBody_outline h]
  refine ⟨rfl, fun name meaning hu => ?_⟩
  have hfacts : Steady (readVars body) (assignmentCounts body)
    (e.ctx.toFacts.enter params body) := ⟨rfl, rfl⟩
  obtain ⟨haccounts, -⟩ := (Outline.accounts_block hfacts [] body 0).whole
  have htraced := Code.traced_blockUses hu
  rcases htraced.meaning with houter | hvisible
  · exact .inl houter
  have hmeant : Meant (assignmentCounts body) (name, meaning) :=
    (mem_append.1 hvisible).elim (haccounts.bound _) (meant_ofBinds _ _)
  cases meaning with
  | outer => exact .inl rfl
  | own => exact .inr (.inr (.inl ⟨rfl, hmeant⟩))
  | var x =>
    rcases hmeant with rfl | ⟨hname, honce⟩
    · exact .inr (.inl rfl)
    have hcount : (blockAssigned body).count x = 1 :=
      (get?_countNames (blockAssigned body) x).symm.trans honce
    refine .inr (.inr (.inr ⟨x, rfl, hname, hcount, ?_⟩))
    have hmentions := haccounts.mentions name
    have hassigned := haccounts.assigned name
    simp only [blockUsage, Code.blockAccount] at hmentions hassigned
    simp only [← count_pos_iff]
    rcases htraced.name with hname | hname
    all_goals
      have hpos := count_pos_iff.2 hname
      dsimp only at hpos
      omega

/-- Two variables get new names, and all names stand for the variables of these names. -/
theorem meaning_of_use_idleFunction :
    ∃ codes, (Emitter.run {} (Emit.functionBody idleFunction.params idleFunction.result false
        idleFunction.body)).1 = .ok codes ∧
      ("n", .var "n") ∈ Code.blockUses (.ofBinds (parameterBinds idleFunction.params)) codes ∧
      ∀ name x, (name, .var x) ∈ Code.blockUses (.ofBinds (parameterBinds idleFunction.params)) codes →
        x = name := by
  obtain ⟨codes, hcodes⟩ := Emitter.exists_ok_of_isSome
    (e := {}) (x := Emit.functionBody idleFunction.params idleFunction.result false
      idleFunction.body) (by decide +kernel)
  obtain ⟨houtline, hmeaning⟩ := meaning_of_use hcodes
  refine ⟨codes, hcodes, houtline ▸ by decide, fun name x hu => ?_⟩
  have hassigned : blockAssigned idleFunction.body = ["seen", "i"] := by decide
  rcases hmeaning name _ hu with houter | hsame | ⟨hown, -⟩ | ⟨y, -, rfl, honce, hused⟩
  · cases houter
  · exact Meaning.var.inj hsame
  · cases hown
  · have hy : y ∈ ["seen", "i"] := hassigned ▸ count_pos_iff.1 (by omega)
    rcases mem_pair.1 hy with rfl | rfl <;> exact absurd hused (by decide)

/-- A variable that is not used, beside a parameter whose name is that of the variable with an
underscore in front. -/
def capturingFunction : IR.Function where
  name := "f"
  params := [{ name := "_x", type := .prim .int }]
  result := some (.prim .int)
  body :=
    [.assign "x" (.literal (.int 5) none) none true false none, .ret (.name "_x" none) none]

/-- The variable takes the name of the parameter, and its value is returned. -/
theorem captured_capturingFunction :
    (transpile {} { name := "capturing", functions := [capturingFunction] }).1.toOption =
        some ("pub fn f(_x: i64) -> i64 \x7b\n    let _x = 5;\n    _x\n\x7d\n") ∧
      ((Emitter.run {} (Emit.functionBody capturingFunction.params capturingFunction.result false
          capturingFunction.body)).1.toOption.map fun codes =>
        Code.blockUses (.ofBinds (parameterBinds capturingFunction.params)) codes) =
        some [("_x", .var "x")] := by
  decide +kernel

end Oxidize
