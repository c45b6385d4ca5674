import Mathlib
import Oxidize.Emit.Stmt
import Oxidize.Proofs.Grouping.Expressions

/-!
# Assignments to fields

An assignment to a field is written with a combined operator if its value applies the operator to
the field of that name of `self`. It gives the field the value of the source, but it stores into a
field of `self`, whichever object the source assigns to. So what is written stores where the source
says exactly if the object is `self` or no combined operator is used (`stores_iff`).
-/

namespace Oxidize

open IR (Expr BinOp)
open Emitter

/-! ## Reading assignments -/

namespace Target

/-- The operators that are combined with an assignment, by their signs. -/
def updates : Table BinOp :=
  [("+=", .add), ("-=", .sub), ("*=", .mul), ("/=", .div), ("%=", .mod)]

/-- An assignment to a field, with the value that the field is given. -/
structure Store where
  obj : Expr
  member : String
  value : Expr

/-- What the combined operator and the operand on its right give the field. -/
def combined (op? : Option BinOp) (field operand : Expr) : Expr :=
  match op? with
  | some op => .binary op field operand
  | none => operand

/-- The assignment that a line is: `p op= r` gives the field the value of `p op r`. -/
def store? (text : String) : Option Store :=
  match expr 0 (tokens text) with
  | some (.field obj member, .sign s :: rest) =>
    match expr 0 rest with
    | some (operand, [.sign ";"]) =>
      if s == "=" || (updates.get? s).isSome then
        some ⟨obj, member, combined (updates.get? s) (.field obj member) operand⟩
      else none
    | _ => none
  | _ => none

/-- The signs before which an expression ends in an assignment. -/
def stops : List String :=
  ";" :: "=" :: updates.keys

lemma stops_apart : ∀ s ∈ stops, s ≠ "(" ∧ s ≠ "::" ∧ s ≠ "." ∧ s ≠ "[" ∧ s ≠ "<" ∧ s ≠ "<<" ∧
    signs.get? s = none := by
  decide

variable {lv lv' : Nat} {typed typed' : Bool} {code operand s : String} {e v : Expr}

lemma Reads.expr_stop (h : Reads lv typed code e) (hs : s ∈ stops) (rest : List Token) :
    expr 0 (tokens code ++ .sign s :: rest) = some (e, .sign s :: rest) := by
  obtain ⟨hopen, hpath, hpoint, hbracket, hless, hshift, hsign⟩ := stops_apart s hs
  obtain ⟨reached, -, hread⟩ := h.form.phrase (Nat.zero_le lv) (Nat.zero_le castLevel) (.sign s :: rest)
    ⟨hopen, hpath, hpoint, hbracket, by simp [hsign], fun _ => ⟨hless, hshift⟩⟩ 0 (Nat.le_refl 0)
  rw [hread, more.eq_def]
  simp [hsign]

lemma tokens_sign : ∀ s ∈ "=" :: updates.keys, tokens (" " ++ s ++ " ") = [.sign s] ∧
    Parts (" " ++ s ++ " ") ∧ (s == "=" || (updates.get? s).isSome) = true ∧
      ∀ c ∈ (" " ++ s ++ " ").toList.getLast?, Text.isNameChar c = false := by
  decide

lemma Reads.store {obj : Expr} {member : String} (h : Reads lv typed code (.field obj member))
    (hv : Reads lv' typed' operand v) (hs : s ∈ "=" :: updates.keys) :
    store? (code ++ (" " ++ s ++ " ") ++ (operand ++ ";")) =
      some ⟨obj, member, combined (updates.get? s) (.field obj member) v⟩ := by
  obtain ⟨htokens, hparts, hknown, hlast⟩ := tokens_sign s hs
  have hend : tokens ";" = [.sign ";"] ∧ Parts ";" := by decide
  have hline : tokens (code ++ (" " ++ s ++ " ") ++ (operand ++ ";")) =
      tokens code ++ .sign s :: (tokens operand ++ [.sign ";"]) := by
    rw [String.append_assoc, tokens_before h.ends (hparts.append _),
      tokens_after (hv.starts.append _) hlast, htokens, tokens_before hv.ends hend.2, hend.1]
    rfl
  unfold store?
  rw [hline, h.expr_stop (List.mem_cons_of_mem _ hs)]
  dsimp only
  rw [hv.expr_stop List.mem_cons_self]
  simp [hknown]

end Target

namespace Emit

/-! ## Writing assignments -/

/-- An assignment to a field as it is written, with the operator that is combined with it. -/
structure FieldStore where
  place : String
  member : String
  op? : Option BinOp
  operand : Written

namespace FieldStore

def sign (s : FieldStore) : String :=
  (s.op?.bind arithmeticUpdate?).getD "="

def text (s : FieldStore) : String :=
  s.place ++ "." ++ s.member ++ (" " ++ s.sign ++ " ") ++ (s.operand.text ++ ";")

/-- Read back with the operator applied to the field, the assignment gives it the value. -/
def ReadsBack (s : FieldStore) (value : Expr) : Prop :=
  match s.op? with
  | some op => ∃ line line' line'',
    value = .binary op (.attr (.name s.place line) s.member line') s.operand.source line''
  | none => value = s.operand.source

end FieldStore

lemma text_updating {op : BinOp} {sign : String} (h : arithmeticUpdate? op = some sign)
    (member : String) (w : Written) :
    s!"self.{member} {sign} {w.text};" = FieldStore.text ⟨"self", member, some op, w⟩ := by
  change "self." ++ member ++ " " ++ sign ++ " " ++ w.text ++ ";" = _
  refine String.toList_inj.1 ?_
  simp [FieldStore.text, FieldStore.sign, h]

lemma text_storing (place member : String) (w : Written) :
    s!"{place}.{member} = {w.text};" = FieldStore.text ⟨place, member, none, w⟩ := by
  change place ++ "." ++ member ++ " = " ++ w.text ++ ";" = _
  refine String.toList_inj.1 ?_
  simp [FieldStore.text, FieldStore.sign]

lemma fieldUpdate?_eq_some {member sign : String} {value right : Expr}
    (h : fieldUpdate? member value = some (sign, right)) :
    ∃ op line line' line'', arithmeticUpdate? op = some sign ∧
      value = .binary op (.attr (.name "self" line) member line') right line'' := by
  unfold fieldUpdate? at h
  split at h
  case _ op owner line updated line' right line'' =>
    obtain ⟨sign', hfilter, heq⟩ := Option.map_eq_some_iff.1 h
    obtain ⟨hsign, howner⟩ := Option.filter_eq_some_iff.1 hfilter
    simp only [Bool.and_eq_true, beq_iff_eq] at howner
    obtain ⟨rfl, rfl⟩ := howner
    cases heq
    exact ⟨op, line, line', line'', hsign, rfl⟩
  · cases h

lemma updates_of_arithmeticUpdate? {op : BinOp} {sign : String}
    (h : arithmeticUpdate? op = some sign) :
    sign ∈ Target.updates.keys ∧ Target.updates.get? sign = some op ∧ (symbol? op).isSome = true := by
  cases op <;> cases h <;> decide

/-- The written part of the value: the operand of a combined operator, or all of it. -/
def fieldOperand (member : String) (value : Expr) : Expr :=
  ((fieldUpdate? member value).map Prod.snd).getD value

variable {em em' : Emitter} {c : Context} {packages : Table Package} {obj value : Expr}
  {member : String}

lemma source_of_written {w : Written} (h : em.run (written value) = (.ok w, em')) :
    w.source = value := by
  unfold written at h
  rw [run_context_bind] at h
  obtain ⟨text, e₂, -, h⟩ := of_run_bind h
  cases h
  rfl

lemma attrAssign_line {code : Code} (h : em.run (attrAssign obj member value) = (.ok code, em')) :
    ∃ (s : FieldStore) (target : Written), code = .line [target, s.operand] s.text ∧
      target.source = obj ∧ s.member = member ∧ s.ReadsBack value ∧
      s.place = if s.op?.isSome then "self" else target.text := by
  unfold attrAssign at h
  obtain ⟨target, e₁, htarget, h⟩ := of_run_bind h
  split at h
  all_goals
    rename_i hupdate
    obtain ⟨w, e₂, hw, h⟩ := of_run_bind h
    cases h
  · obtain ⟨op, line, line', line'', hsign, hvalue⟩ := fieldUpdate?_eq_some hupdate
    rw [text_updating hsign]
    refine ⟨⟨"self", member, some op, w⟩, target, rfl, source_of_written htarget, rfl,
      ⟨line, line', line'', ?_⟩, rfl⟩
    rw [hvalue, source_of_written hw]
  · rw [text_storing]
    exact ⟨⟨target.text, member, none, w⟩, target, rfl, source_of_written htarget, rfl,
      (source_of_written hw).symm, rfl⟩

lemma written_gives {e : Expr} {code : String} (h : Gives c packages (expr e) code) :
    Gives c packages (written e) ⟨e, c.narrowed, code⟩ :=
  Gives.read (h.bind (Gives.pure _))

/-- What is written for an assignment to a field is read as one, if its parts bind tightly
enough. -/
lemma attrAssign_reads (hobj : Throughout (fun e => Templated c packages e ∧ Fits c e) obj)
    (hlv : Target.top ≤ binding c obj) (hmember : Stub.isUsableName member = true)
    (hvalue : Throughout (fun e => Templated c packages e ∧ Fits c e) (fieldOperand member value)) :
    ∃ parts text store, Gives c packages (attrAssign obj member value) (.line parts text) ∧
      Target.store? text = some store ∧ store.member = member ∧ Renders value store.value ∧
      (Renders obj store.obj ↔
        ((fieldUpdate? member value).isSome = true → obj.isName "self" = true)) := by
  obtain ⟨place, hgiveplace, hplace⟩ := exists_spelled hobj
  obtain ⟨operand, hgiveoperand, hoperand⟩ := exists_spelled hvalue
  obtain ⟨tobj, hrenderobj, hreadobj⟩ := hplace.reads
  obtain ⟨tvalue, hrendervalue, hreadvalue⟩ := hoperand.reads
  unfold fieldOperand at hgiveoperand hrendervalue
  cases hupdate : fieldUpdate? member value with
  | none =>
    rw [hupdate] at hgiveoperand hrendervalue
    have hread := reads_member hreadobj hlv hmember
    refine ⟨[⟨obj, c.narrowed, place⟩, ⟨value, c.narrowed, operand⟩], _, _, ?_,
      hread.store hreadvalue (s := "=") (by simp), rfl, hrendervalue, iff_of_true hrenderobj nofun⟩
    unfold attrAssign
    rw [hupdate]
    refine (written_gives hgiveplace).bind ((written_gives hgiveoperand).bind ?_)
    rw [text_storing]
    exact Gives.pure _
  | some update =>
    obtain ⟨sign, right⟩ := update
    rw [hupdate] at hgiveoperand hrendervalue
    obtain ⟨op, line, line', line'', hsign, hvalue⟩ := fieldUpdate?_eq_some hupdate
    obtain ⟨hmem, hop, hsymbol⟩ := updates_of_arithmeticUpdate? hsign
    have hself : Stub.isUsableName "self" = true := by decide
    have hread := reads_member (reads_name hself) (Nat.le_refl _) hmember
    have hstore := hread.store hreadvalue (List.mem_cons_of_mem _ hmem)
    rw [hop] at hstore
    refine ⟨[⟨obj, c.narrowed, place⟩, ⟨right, c.narrowed, operand⟩], _, _, ?_, hstore, rfl, ?_, ?_⟩
    · unfold attrAssign
      rw [hupdate]
      refine (written_gives hgiveplace).bind ((written_gives hgiveoperand).bind ?_)
      rw [text_updating hsign, FieldStore.text, FieldStore.sign, Option.bind_some, hsign]
      exact Gives.pure _
    · rw [hvalue]
      exact .binary op line'' hsymbol (.field member line' (.name "self" line)) hrendervalue
    · have hname : obj.isName "self" = true ↔ ∃ line, obj = .name "self" line := by
        cases obj <;> simp [Expr.isName, Expr.name?]
      rw [hname]
      constructor
      · exact fun h _ => h.eq_name
      · intro h
        obtain ⟨line, rfl⟩ := h rfl
        exact .name "self" line

/-- An assignment to a field stores where the source says exactly if no combined operator is used or
the object is `self`. What the field is given is what the source says in any case. -/
theorem stores_iff (em : Emitter) (obj : Expr) (member : String) (value : Expr)
    (annot : Option IR.Ty) (line : IR.Line) :
    -- Whatever the parts are, the line names the place, the field and the operand.
    (∀ codes em', em.run (stmtCode (.attrAssign obj member value annot line)) = (.ok codes, em') →
      ∃ (s : FieldStore) (target : Written), codes = [.line [target, s.operand] s.text] ∧
        target.source = obj ∧ s.member = member ∧ s.ReadsBack value ∧
        (s.place = target.text ↔ (s.op?.isSome = true → target.text = "self"))) ∧
    -- If they bind tightly enough, the line is read as the assignment.
    (Throughout (fun e => Templated em.ctx em.resolver.registry.packages e ∧ Fits em.ctx e) obj →
      Target.top ≤ binding em.ctx obj → Stub.isUsableName member = true →
      Throughout (fun e => Templated em.ctx em.resolver.registry.packages e ∧ Fits em.ctx e)
        (fieldOperand member value) →
      ∃ parts text em' store,
        em.run (stmtCode (.attrAssign obj member value annot line)) =
          (.ok [.line parts text], em') ∧
        Target.store? text = some store ∧ store.member = member ∧ Renders value store.value ∧
        (Renders obj store.obj ↔
          ((fieldUpdate? member value).isSome = true → obj.isName "self" = true))) := by
  constructor
  · intro codes em' h
    rw [stmtCode] at h
    obtain ⟨code, em₁, hcode, h⟩ := of_run_bind h
    cases h
    obtain ⟨s, target, rfl, hsource, hmember, hvalue, hplace⟩ := attrAssign_line hcode
    refine ⟨s, target, rfl, hsource, hmember, hvalue, ?_⟩
    rw [hplace]
    split
    · simp [*, eq_comm]
    · simp [*]
  · intro hobj hlv hmember hvalue
    obtain ⟨parts, text, store, hgive, hstore⟩ := attrAssign_reads hobj hlv hmember hvalue
    obtain ⟨em', hrun, -, -⟩ := hgive em rfl rfl
    refine ⟨parts, text, em', store, ?_, hstore⟩
    rw [stmtCode, run_bind_ok hrun]
    rfl

def nextTotal : Expr :=
  .binary .add (.attr (.name "self" none) "total" none) (.literal (.int 1) none) none

/-- The statement `owner.total = self.total + 1`. -/
def totalUpdate (owner : String) : IR.Stmt :=
  .attrAssign (.name owner none) "total" nextTotal none none

theorem stores_iff_totalUpdate :
    ∃ parts text em' store, Emitter.run {} (stmtCode (totalUpdate "self")) =
        (.ok [.line parts text], em') ∧
      Target.store? text = some store ∧ store.member = "total" ∧
      Renders (.name "self" none) store.obj := by
  have husable : ∀ n ∈ ["self", "total"], Stub.isUsableName n = true := by decide
  obtain ⟨hform, hfits⟩ := throughout_name (husable "self" (by simp)) none
  have hone : fieldOperand "total" nextTotal = .literal (.int 1) none := rfl
  obtain ⟨parts, text, em', store, hrun, hstore, hmember, -, hobj⟩ :=
    (stores_iff {} (.name "self" none) "total" nextTotal none none).2 (hform.and hfits)
      (Nat.le_refl _) (husable "total" (by simp))
      (hone ▸ .intro ⟨Int.natCast_nonneg 1, trivial⟩ nofun)
  exact ⟨parts, text, em', store, hrun, hstore, hmember, hobj.2 fun _ => rfl⟩

/-- The assignment to a field of another object changes the field of `self`. -/
theorem not_renders_totalUpdate :
    (∃ parts em', Emitter.run {} (stmtCode (totalUpdate "other")) =
      (.ok [.line parts "self.total += 1;"], em')) ∧
    ∃ store, Target.store? "self.total += 1;" = some store ∧
      ¬ Renders (.name "other" none) store.obj := by
  refine ⟨⟨_, _, rfl⟩, ⟨.name "self", "total", _⟩, by cbv, ?_⟩
  intro h
  obtain ⟨line, hname⟩ := h.eq_name
  simp at hname

end Emit

end Oxidize
