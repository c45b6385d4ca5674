import Mathlib.Tactic.Lemma

/-!
# Control flow

A flow says in which orders events can happen: one after the other, in one of two ways, or in a loop
that is left at its head, by a jump, or not for many rounds. Its runs are the traces of events with
the way in which they end. `Reaches` and `Hits` compute from the flow alone which states its runs
can end in, and whether a run can come to a selected event while the bit is off; both are exact
(`reaches_iff`, `hits_iff`).
-/

namespace Oxidize

open List

/-- How a run ends: at the end, or by a jump that leaves a loop, begins its next round or leaves
everything. -/
inductive Outcome where
  | done
  | broke
  | again
  | left
  deriving DecidableEq

def Outcome.continues : Outcome → Bool
  | .done | .again => true
  | .broke | .left => false

def Outcome.ofRound : Outcome → Outcome
  | .left => .left
  | _ => .done

inductive Flow (α : Type) where
  | skip
  | event (a : α)
  | jump (outcome : Outcome)
  | seq (f g : Flow α)
  | alt (f g : Flow α)
  /-- Before each round of the body, and before the loop ends, the head happens. -/
  | loop (head body : Flow α)

namespace Flow

variable {α : Type}

/-- The runs of a flow: the events that happen, in order, and how the run ends. -/
inductive Runs : Flow α → List α → Outcome → Prop
  | skip : Runs .skip [] .done
  | event (a : α) : Runs (.event a) [a] .done
  | jump (o : Outcome) : Runs (.jump o) [] o
  | seq {f g : Flow α} {t u : List α} {o : Outcome} (hf : Runs f t .done) (hg : Runs g u o) :
    Runs (.seq f g) (t ++ u) o
  | seqStop {f g : Flow α} {t : List α} {o : Outcome} (hf : Runs f t o) (ho : o ≠ .done) :
    Runs (.seq f g) t o
  | altLeft {f g : Flow α} {t : List α} {o : Outcome} (hf : Runs f t o) : Runs (.alt f g) t o
  | altRight {f g : Flow α} {t : List α} {o : Outcome} (hg : Runs g t o) : Runs (.alt f g) t o
  | loopHead {head body : Flow α} {t : List α} {o : Outcome} (hhead : Runs head t o) :
    Runs (.loop head body) t o
  | loopExit {head body : Flow α} {t u : List α} {o : Outcome} (hhead : Runs head t .done)
    (hbody : Runs body u o) (ho : o.continues = false) :
    Runs (.loop head body) (t ++ u) o.ofRound
  | loopRound {head body : Flow α} {t u v : List α} {o p : Outcome} (hhead : Runs head t .done)
    (hbody : Runs body u o) (ho : o.continues = true) (hloop : Runs (.loop head body) v p) :
    Runs (.loop head body) (t ++ (u ++ v)) p

lemma exists_runs (f : Flow α) : ∃ t o, Runs f t o := by
  induction f with
  | skip => exact ⟨_, _, .skip⟩
  | event a => exact ⟨_, _, .event a⟩
  | jump o => exact ⟨_, _, .jump o⟩
  | seq f g ihf ihg =>
    obtain ⟨t, o, hf⟩ := ihf
    by_cases ho : o = .done
    · obtain ⟨u, p, hg⟩ := ihg
      exact ⟨_, _, .seq (ho ▸ hf) hg⟩
    · exact ⟨_, _, .seqStop hf ho⟩
  | alt f g ihf _ =>
    obtain ⟨t, o, hf⟩ := ihf
    exact ⟨_, _, .altLeft hf⟩
  | loop head body ihhead _ =>
    obtain ⟨t, o, hhead⟩ := ihhead
    exact ⟨_, _, .loopHead hhead⟩

/-! ## The state at the end of a run -/

section State

variable (step : Bool → α → Bool)

/-- A round of a loop, given how its head and its body change the state. -/
def Round (head body : Bool → Outcome → Bool → Prop) (s s' : Bool) : Prop :=
  ∃ k, head s .done k ∧ (body k .done s' ∨ body k .again s')

instance {head body : Bool → Outcome → Bool → Prop} [∀ s o s', Decidable (head s o s')]
    [∀ s o s', Decidable (body s o s')] (s s' : Bool) : Decidable (Round head body s s') :=
  inferInstanceAs (Decidable (∃ k, head s .done k ∧ (body k .done s' ∨ body k .again s')))

variable {head body : Bool → Outcome → Bool → Prop} {s s' : Bool} {o : Outcome}

lemma Round.of_continues {k : Bool}
    (hhead : head s .done k) (hbody : body k o s') (ho : o.continues = true) :
    Round head body s s' := by
  refine ⟨k, hhead, ?_⟩
  cases o with
  | done => exact .inl hbody
  | again => exact .inr hbody
  | broke | left => cases ho

/-- Some run from the state `s` ends as `o` in the state `s'`. A loop can be in two states only, so
that what it reaches in many rounds it reaches in at most one. -/
def Reaches : Flow α → Bool → Outcome → Bool → Prop
  | .skip, s, o, s' => o = .done ∧ s' = s
  | .event a, s, o, s' => o = .done ∧ s' = step s a
  | .jump j, s, o, s' => o = j ∧ s' = s
  | .seq f g, s, o, s' =>
    (o ≠ .done ∧ f.Reaches s o s') ∨ ∃ m, f.Reaches s .done m ∧ g.Reaches m o s'
  | .alt f g, s, o, s' => f.Reaches s o s' ∨ g.Reaches s o s'
  | .loop head body, s, o, s' =>
    ∃ m, (m = s ∨ Round head.Reaches body.Reaches s m) ∧
      (head.Reaches m o s' ∨ ∃ k, head.Reaches m .done k ∧
        ((o = .done ∧ body.Reaches k .broke s') ∨ (o = .left ∧ body.Reaches k .left s')))

instance decidableReaches : (f : Flow α) → (s : Bool) → (o : Outcome) → (s' : Bool) →
    Decidable (f.Reaches step s o s')
  | .skip, s, o, s' => inferInstanceAs (Decidable (o = .done ∧ s' = s))
  | .event a, s, o, s' => inferInstanceAs (Decidable (o = .done ∧ s' = step s a))
  | .jump j, s, o, s' => inferInstanceAs (Decidable (o = j ∧ s' = s))
  | .seq f g, s, o, s' =>
    have := decidableReaches f
    have := decidableReaches g
    inferInstanceAs (Decidable
      ((o ≠ .done ∧ f.Reaches step s o s') ∨ ∃ m, f.Reaches step s .done m ∧ g.Reaches step m o s'))
  | .alt f g, s, o, s' =>
    have := decidableReaches f
    have := decidableReaches g
    inferInstanceAs (Decidable (f.Reaches step s o s' ∨ g.Reaches step s o s'))
  | .loop head body, s, o, s' =>
    have := decidableReaches head
    have := decidableReaches body
    inferInstanceAs (Decidable (∃ m, (m = s ∨ Round (head.Reaches step) (body.Reaches step) s m) ∧
        (head.Reaches step m o s' ∨ ∃ k, head.Reaches step m .done k ∧
          ((o = .done ∧ body.Reaches step k .broke s') ∨
            (o = .left ∧ body.Reaches step k .left s')))))

/-- Rounds that go on from where another one ended lead nowhere that one round does not. -/
lemma Round.trans {m : Bool}
    (hfirst : Round head body s s') (hrest : m = s' ∨ Round head body s' m) :
    m = s ∨ Round head body s m := by
  rcases hrest with rfl | hrest
  · exact .inr hfirst
  by_cases hs : s' = s
  · exact .inr (hs ▸ hrest)
  by_cases hm : m = s
  · exact .inl hm
  have heq : m = s' := by
    cases m <;> cases s <;> cases s' <;> simp_all
  exact .inr (heq ▸ hfirst)

variable {step}

lemma reaches_of_runs {f : Flow α} {t : List α} (hrun : Runs f t o) (s : Bool) :
    f.Reaches step s o (t.foldl step s) := by
  -- by induction on the run: the rounds of a loop are put together by `Round.trans`
  induction hrun generalizing s with
  | skip => exact ⟨rfl, rfl⟩
  | event a => exact ⟨rfl, rfl⟩
  | jump o => exact ⟨rfl, rfl⟩
  | seq _ _ ihf ihg =>
    rw [foldl_append]
    exact .inr ⟨_, ihf s, ihg _⟩
  | seqStop _ ho ihf => exact .inl ⟨ho, ihf s⟩
  | altLeft _ ihf => exact .inl (ihf s)
  | altRight _ ihg => exact .inr (ihg s)
  | loopHead _ ihhead => exact ⟨s, .inl rfl, .inl (ihhead s)⟩
  | @loopExit _ _ _ _ o _ _ ho ihhead ihbody =>
    rw [foldl_append]
    refine ⟨s, .inl rfl, .inr ⟨_, ihhead s, ?_⟩⟩
    cases o with
    | broke => exact .inl ⟨rfl, ihbody _⟩
    | left => exact .inr ⟨rfl, ihbody _⟩
    | done | again => cases ho
  | loopRound _ _ ho _ ihhead ihbody ihloop =>
    rw [foldl_append, foldl_append]
    have hround := Round.of_continues (ihhead s) (ihbody _) ho
    obtain ⟨m, hm, hend⟩ := ihloop _
    exact ⟨m, hround.trans hm, hend⟩

/-- A loop can go through a round before it does what it does from there. -/
lemma runs_of_round {head body : Flow α} {m : Bool}
    (hhead : ∀ s o s', head.Reaches step s o s' → ∃ t, Runs head t o ∧ t.foldl step s = s')
    (hbody : ∀ s o s', body.Reaches step s o s' → ∃ t, Runs body t o ∧ t.foldl step s = s')
    (hm : m = s ∨ Round (head.Reaches step) (body.Reaches step) s m) : ∃ t, t.foldl step s = m ∧
      ∀ v p, Runs (.loop head body) v p → Runs (.loop head body) (t ++ v) p := by
  rcases hm with rfl | ⟨k, hk, hround⟩
  · exact ⟨[], rfl, fun v p hv => hv⟩
  obtain ⟨t, ht, rfl⟩ := hhead s .done k hk
  have hcontinue : ∃ u o, Runs body u o ∧ o.continues = true ∧ u.foldl step (t.foldl step s) = m := by
    rcases hround with hround | hround
    · obtain ⟨u, hu, hend⟩ := hbody _ _ _ hround
      exact ⟨u, .done, hu, rfl, hend⟩
    · obtain ⟨u, hu, hend⟩ := hbody _ _ _ hround
      exact ⟨u, .again, hu, rfl, hend⟩
  obtain ⟨u, o, hu, ho, hend⟩ := hcontinue
  refine ⟨t ++ u, by rw [foldl_append, hend], fun v p hv => ?_⟩
  rw [append_assoc]
  exact .loopRound ht hu ho hv

lemma exists_runs_of_reaches (f : Flow α) (s : Bool) (o : Outcome) (s' : Bool)
    (h : f.Reaches step s o s') : ∃ t, Runs f t o ∧ t.foldl step s = s' := by
  induction f generalizing s o s' with
  | skip =>
    obtain ⟨rfl, rfl⟩ := h
    exact ⟨[], .skip, rfl⟩
  | event a =>
    obtain ⟨rfl, rfl⟩ := h
    exact ⟨[a], .event a, rfl⟩
  | jump j =>
    obtain ⟨rfl, rfl⟩ := h
    exact ⟨[], .jump _, rfl⟩
  | seq f g ihf ihg =>
    rcases h with ⟨ho, h⟩ | ⟨m, hf, hg⟩
    · obtain ⟨t, ht, hend⟩ := ihf _ _ _ h
      exact ⟨t, .seqStop ht ho, hend⟩
    · obtain ⟨t, ht, rfl⟩ := ihf _ _ _ hf
      obtain ⟨u, hu, hend⟩ := ihg _ _ _ hg
      exact ⟨t ++ u, .seq ht hu, by rw [foldl_append, hend]⟩
  | alt f g ihf ihg =>
    rcases h with h | h
    · obtain ⟨t, ht, hend⟩ := ihf _ _ _ h
      exact ⟨t, .altLeft ht, hend⟩
    · obtain ⟨t, ht, hend⟩ := ihg _ _ _ h
      exact ⟨t, .altRight ht, hend⟩
  | loop head body ihhead ihbody =>
    obtain ⟨m, hm, h⟩ := h
    obtain ⟨t, rfl, hrounds⟩ := runs_of_round ihhead ihbody hm
    rcases h with h | ⟨k, hk, h⟩
    · obtain ⟨u, hu, hend⟩ := ihhead _ _ _ h
      exact ⟨t ++ u, hrounds _ _ (.loopHead hu), by rw [foldl_append, hend]⟩
    · obtain ⟨u, hu, rfl⟩ := ihhead _ _ _ hk
      rcases h with ⟨rfl, h⟩ | ⟨rfl, h⟩
      all_goals
        obtain ⟨v, hv, hend⟩ := ihbody _ _ _ h
        refine ⟨t ++ (u ++ v), hrounds _ _ (.loopExit hu hv rfl), ?_⟩
        rw [foldl_append, foldl_append, hend]

/-- The states in which runs end are exactly those that the flow reaches. -/
lemma reaches_iff {f : Flow α} : f.Reaches step s o s' ↔ ∃ t, Runs f t o ∧ t.foldl step s = s' := by
  constructor
  · exact exists_runs_of_reaches f s o s'
  · rintro ⟨t, hrun, rfl⟩
    exact reaches_of_runs hrun s

end State

/-! ## Selected events while the state is off -/

section Hits

variable (step : Bool → α → Bool) (selected : α → Bool)

def Exposed (s : Bool) (t : List α) : Prop :=
  ∃ before a after, t = before ++ a :: after ∧ selected a = true ∧ before.foldl step s = false

/-- Some run from the state `s` comes to a selected event while the state is off. -/
def Hits : Flow α → Bool → Prop
  | .skip, _ => False
  | .event a, s => selected a = true ∧ s = false
  | .jump _, _ => False
  | .seq f g, s => f.Hits s ∨ ∃ m, f.Reaches step s .done m ∧ g.Hits m
  | .alt f g, s => f.Hits s ∨ g.Hits s
  | .loop head body, s =>
    ∃ m, (m = s ∨ Round (head.Reaches step) (body.Reaches step) s m) ∧
      (head.Hits m ∨ ∃ k, head.Reaches step m .done k ∧ body.Hits k)

instance decidableHits : (f : Flow α) → (s : Bool) → Decidable (f.Hits step selected s)
  | .skip, _ => inferInstanceAs (Decidable False)
  | .event a, s => inferInstanceAs (Decidable (selected a = true ∧ s = false))
  | .jump _, _ => inferInstanceAs (Decidable False)
  | .seq f g, s =>
    have := decidableHits f
    have := decidableHits g
    inferInstanceAs (Decidable
      (f.Hits step selected s ∨ ∃ m, f.Reaches step s .done m ∧ g.Hits step selected m))
  | .alt f g, s =>
    have := decidableHits f
    have := decidableHits g
    inferInstanceAs (Decidable (f.Hits step selected s ∨ g.Hits step selected s))
  | .loop head body, s =>
    have := decidableHits head
    have := decidableHits body
    inferInstanceAs (Decidable (∃ m, (m = s ∨ Round (head.Reaches step) (body.Reaches step) s m) ∧
        (head.Hits step selected m ∨
          ∃ k, head.Reaches step m .done k ∧ body.Hits step selected k)))

variable {step selected}

lemma exposed_append {s : Bool} {t u : List α} : Exposed step selected s (t ++ u) ↔
      Exposed step selected s t ∨ Exposed step selected (t.foldl step s) u := by
  constructor
  · rintro ⟨before, a, after, heq, ha, hoff⟩
    rcases append_eq_append_iff.1 heq with ⟨rest, rfl, rfl⟩ | ⟨rest, rfl, hrest⟩
    · refine .inr ⟨rest, a, after, rfl, ha, ?_⟩
      rwa [foldl_append] at hoff
    · cases rest with
      | nil =>
        cases hrest
        refine .inr ⟨[], a, after, rfl, ha, ?_⟩
        rwa [append_nil]
      | cons b rest =>
        cases hrest
        exact .inl ⟨before, a, rest, rfl, ha, hoff⟩
  · rintro (⟨before, a, after, rfl, ha, hoff⟩ | ⟨before, a, after, rfl, ha, hoff⟩)
    · exact ⟨before, a, after ++ u, by simp, ha, hoff⟩
    · exact ⟨t ++ before, a, after, by simp, ha, by rwa [foldl_append]⟩

lemma not_exposed_nil (s : Bool) : ¬ Exposed step selected s [] := by
  rintro ⟨before, a, after, heq, _⟩
  simp at heq

lemma hits_of_runs {f : Flow α} {t : List α} {o : Outcome} (hrun : Runs f t o) (s : Bool)
    (h : Exposed step selected s t) : f.Hits step selected s := by
  induction hrun generalizing s with
  | skip | jump o => exact (not_exposed_nil s h).elim
  | event a =>
    obtain ⟨before, b, after, heq, hb, hoff⟩ := h
    cases before with
    | nil =>
      cases heq
      exact ⟨hb, hoff⟩
    | cons c before => simp at heq
  | seq hf _ ihf ihg =>
    rcases exposed_append.1 h with h | h
    · exact .inl (ihf s h)
    · exact .inr ⟨_, reaches_of_runs hf s, ihg _ h⟩
  | seqStop _ _ ihf => exact .inl (ihf s h)
  | altLeft _ ihf => exact .inl (ihf s h)
  | altRight _ ihg => exact .inr (ihg s h)
  | loopHead _ ihhead => exact ⟨s, .inl rfl, .inl (ihhead s h)⟩
  | loopExit hhead _ _ ihhead ihbody =>
    rcases exposed_append.1 h with h | h
    · exact ⟨s, .inl rfl, .inl (ihhead s h)⟩
    · exact ⟨s, .inl rfl, .inr ⟨_, reaches_of_runs hhead s, ihbody _ h⟩⟩
  | loopRound hhead hbody ho _ ihhead ihbody ihloop =>
    rcases exposed_append.1 h with h | h
    · exact ⟨s, .inl rfl, .inl (ihhead s h)⟩
    rcases exposed_append.1 h with h | h
    · exact ⟨s, .inl rfl, .inr ⟨_, reaches_of_runs hhead s, ihbody _ h⟩⟩
    obtain ⟨m, hm, hhit⟩ := ihloop _ h
    refine ⟨m, Round.trans ?_ hm, hhit⟩
    exact .of_continues (reaches_of_runs hhead s) (reaches_of_runs hbody _) ho

lemma exists_runs_of_hits (f : Flow α) (s : Bool) (h : f.Hits step selected s) :
    ∃ t o, Runs f t o ∧ Exposed step selected s t := by
  -- what happens after the selected event does not matter: any run may follow
  induction f generalizing s with
  | skip => exact h.elim
  | jump j => exact h.elim
  | event a => exact ⟨[a], .done, .event a, [], a, [], rfl, h.1, h.2⟩
  | seq f g ihf ihg =>
    rcases h with h | ⟨m, hm, h⟩
    · obtain ⟨t, o, ht, hexp⟩ := ihf s h
      by_cases ho : o = .done
      · obtain ⟨u, p, hu⟩ := exists_runs g
        exact ⟨t ++ u, p, .seq (ho ▸ ht) hu, exposed_append.2 (.inl hexp)⟩
      · exact ⟨t, o, .seqStop ht ho, hexp⟩
    · obtain ⟨t, ht, rfl⟩ := reaches_iff.1 hm
      obtain ⟨u, o, hu, hexp⟩ := ihg _ h
      exact ⟨t ++ u, o, .seq ht hu, exposed_append.2 (.inr hexp)⟩
  | alt f g ihf ihg =>
    rcases h with h | h
    · obtain ⟨t, o, ht, hexp⟩ := ihf s h
      exact ⟨t, o, .altLeft ht, hexp⟩
    · obtain ⟨t, o, ht, hexp⟩ := ihg s h
      exact ⟨t, o, .altRight ht, hexp⟩
  | loop head body ihhead ihbody =>
    obtain ⟨m, hm, h⟩ := h
    obtain ⟨t, rfl, hrounds⟩ := runs_of_round (exists_runs_of_reaches head)
      (exists_runs_of_reaches body) hm
    suffices hrest : ∃ v o, Runs (.loop head body) v o ∧
        Exposed step selected (t.foldl step s) v by
      obtain ⟨v, o, hv, hexp⟩ := hrest
      exact ⟨t ++ v, o, hrounds v o hv, exposed_append.2 (.inr hexp)⟩
    rcases h with h | ⟨k, hk, h⟩
    · obtain ⟨u, o, hu, hexp⟩ := ihhead _ h
      exact ⟨u, o, .loopHead hu, hexp⟩
    · obtain ⟨u, hu, rfl⟩ := reaches_iff.1 hk
      obtain ⟨v, o, hv, hexp⟩ := ihbody _ h
      cases ho : o.continues with
      | false => exact ⟨u ++ v, _, .loopExit hu hv ho, exposed_append.2 (.inr hexp)⟩
      | true =>
        obtain ⟨w, p, hw⟩ := exists_runs (.loop head body)
        refine ⟨u ++ (v ++ w), p, .loopRound hu hv ho hw, ?_⟩
        exact exposed_append.2 (.inr (exposed_append.2 (.inl hexp)))

/-- A run comes to a selected event while the state is off exactly if the flow hits one. -/
lemma hits_iff {f : Flow α} {s : Bool} :
    f.Hits step selected s ↔ ∃ t o, Runs f t o ∧ Exposed step selected s t := by
  constructor
  · exact exists_runs_of_hits f s
  · rintro ⟨t, o, hrun, hexp⟩
    exact hits_of_runs hrun s hexp

end Hits

end Flow

end Oxidize
