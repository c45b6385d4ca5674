import Oxidize.Proofs.Flow.Narrowing

/-!
# Statements behind a `try`

The statements of a `finally` are written behind the block of the `try`. They run exactly if that
block comes to its end (`cleanup_runs_iff`): a jump out of it leaves them out.
-/

namespace Oxidize

open IR (Stmt)
open Emit List
open Oxidize.Flow (Runs ofBlock)

namespace Flow

/-- A run of a block in two parts stops in the first part, or it comes to the end of the first part
and goes on in the second. -/
lemma runs_append_iff {pos : List Nat} {cs ds : List Code} {path : List Event} {o : Outcome} :
    Runs (ofBlock pos (cs ++ ds)) path o ↔ (o ≠ .done ∧ Runs (ofBlock pos cs) path o) ∨
      ∃ u v, path = u ++ v ∧ Runs (ofBlock pos cs) u .done ∧
        Runs (ofBlock (List.replicate cs.length 1 ++ pos) ds) v o := by
  induction cs generalizing pos path with
  | nil =>
    constructor
    · exact fun h => .inr ⟨[], path, rfl, .skip, h⟩
    · rintro (⟨ho, h⟩ | ⟨u, v, rfl, hu, hv⟩)
      · cases h
        exact absurd rfl ho
      · cases hu
        exact hv
  | cons c cs ih =>
    have hpos : List.replicate (c :: cs).length 1 ++ pos =
        List.replicate cs.length 1 ++ 1 :: pos := by
      rw [length_cons, replicate_succ', append_assoc]
      rfl
    rw [cons_append, ofBlock, ofBlock, hpos]
    constructor
    · intro h
      cases h with
      | seqStop hc ho => exact .inl ⟨ho, .seqStop hc ho⟩
      | seq hc hrest =>
        rcases ih.1 hrest with ⟨ho, hcs⟩ | ⟨u, v, rfl, hcs, hds⟩
        · exact .inl ⟨ho, .seq hc hcs⟩
        · exact .inr ⟨_, v, (append_assoc ..).symm, .seq hc hcs, hds⟩
    · rintro (⟨ho, h⟩ | ⟨u, v, rfl, hu, hv⟩)
      · cases h with
        | seqStop hc _ => exact .seqStop hc ho
        | seq hc hcs => exact .seq hc (ih.2 (.inl ⟨ho, hcs⟩))
      · cases hu with
        | seqStop _ ho => exact absurd rfl ho
        | seq hc hcs =>
          rw [append_assoc]
          exact .seq hc (ih.2 (.inr ⟨_, v, rfl, hcs, hv⟩))

end Flow

/-- A run of the code of a `try` without handlers jumps out of what is written before the statements
of its `finally`, or it comes to the end of that and goes on with one run of them. -/
theorem cleanup_runs_iff {e e' : Emitter} {body elseBody finallyBody : List Stmt} {line : IR.Line}
    {codes : List Code} (hne : finallyBody ≠ [])
    (h : e.run (stmtCode (.tryBlock body [] elseBody finallyBody line)) = (.ok codes, e')) :
    ∃ inner other last e₁ e₂,
      e.run (indented (keepingTail (blockCode false [] body 0))) = (.ok inner, e₁) ∧
      e₁.run (keepingTail (blockCode false [] elseBody 0)) = (.ok other, e₂) ∧
      e₂.run (keepingTail (blockCode false [] finallyBody 0)) = (.ok last, e') ∧
      let front := .scope inner.1.flatten "" :: other.1.flatten
      let cleanup := .line [] "// finally block" :: last.1.flatten
      ∀ pos path o, Runs (ofBlock pos codes) path o ↔
        (o ≠ .done ∧ Runs (ofBlock pos front) path o) ∨
          ∃ u v, path = u ++ v ∧ Runs (ofBlock pos front) u .done ∧
            Runs (ofBlock (List.replicate front.length 1 ++ pos) cleanup) v o := by
  rw [stmtCode] at h
  obtain ⟨inner, e₁, hinner, h⟩ := Emitter.of_run_bind h
  obtain ⟨other, e₂, hother, h⟩ := Emitter.of_run_bind h
  obtain ⟨last, e₃, hlast, h⟩ := Emitter.of_run_bind h
  dsimp only at h
  rw [isEmpty_eq_false_iff.2 hne] at h
  cases h
  exact ⟨inner, other, last, e₁, e₂, hinner, hother, hlast, fun _ _ _ => Flow.runs_append_iff⟩

/-- A `try` whose `finally` begins the next round of the loop around it. -/
def continuing (s : Stmt) : Stmt :=
  .tryBlock [s] [] [] [.continueLoop none] none

theorem cleanup_runs_pass :
    ∃ codes e', Emitter.run {} (stmtCode (continuing (.pass none))) = (.ok codes, e') ∧
      Runs (ofBlock [] codes) [] .again := by
  obtain ⟨codes, e', h⟩ : ∃ codes e', Emitter.run {} (stmtCode (continuing (.pass none))) =
    (.ok codes, e') := ⟨_, _, rfl⟩
  obtain ⟨_, _, _, _, _, hinner, hother, hlast, hruns⟩ := cleanup_runs_iff (cons_ne_nil _ _) h
  cases hinner
  cases hother
  cases hlast
  refine ⟨codes, _, h, (hruns [] [] .again).2 (.inr ⟨[], [], rfl, ?_, ?_⟩)⟩
  · exact .seq (t := []) (.seq (t := []) .skip .skip) .skip
  · exact .seq (t := []) .skip (.seqStop (.jump _) (by decide))

/-- A `break` leaves out the `continue` of the `finally`. -/
theorem cleanup_skipped_break :
    ∃ codes e', Emitter.run {} (stmtCode (continuing (.breakLoop none))) = (.ok codes, e') ∧
      ∀ path o, Runs (ofBlock [] codes) path o → o = .broke := by
  refine ⟨_, _, rfl, fun path o h => ?_⟩
  change Runs (.seq (.seq (.jump .broke) .skip) _) path o at h
  cases h with
  | seq h _ =>
    cases h with
    | seq h _ => cases h
    | seqStop _ ho => exact absurd rfl ho
  | seqStop h _ =>
    cases h with
    | seq h _ => cases h
    | seqStop h _ =>
      cases h
      rfl

end Oxidize
