import Mathlib.Tactic.Lemma
import Oxidize.Lower.Item

/-!
# Steps of lowering

Lowering threads the scopes through its steps and stops at the first fault. Most steps are steady:
they neither ask which names are defined nor define any. Expressions are taken over directly
(`Direct`), by steady steps that fail only because something has no counterpart, so what the scopes
can change is decided at the statements.
-/

namespace Oxidize.Lower

open Syntax

variable {α β : Type} {x : Lower α} {f : α → Lower β} {s : Scopes} {error : LowerError}
  {Q : β → Prop}

lemma run_bind_ok {s' : Scopes} {a : α}
    (h : x.run s = .ok (a, s')) : (x >>= f).run s = (f a).run s' := by
  rw [StateT.run_bind, h]
  rfl

lemma run_bind_error (h : x.run s = .error error) : (x >>= f).run s = .error error := by
  rw [StateT.run_bind, h]
  rfl

/-- What two steps in a row give comes from what each of them gives. -/
lemma of_run_bind {s'' : Scopes} {b : β} (h : (x >>= f).run s = .ok (b, s'')) :
    ∃ a s', x.run s = .ok (a, s') ∧ (f a).run s' = .ok (b, s'') := by
  cases hrun : x.run s with
  | error error =>
    rw [run_bind_error hrun] at h
    cases h
  | ok p =>
    obtain ⟨a, s'⟩ := p
    rw [run_bind_ok hrun] at h
    exact ⟨a, s', rfl, h⟩

def Steady (x : Lower α) : Prop :=
  ∃ result : Except LowerError α, ∀ s, x.run s = result.map (·, s)

namespace Steady

lemma pure (a : α) : Steady (pure a : Lower α) :=
  ⟨.ok a, fun _ => rfl⟩

lemma throw (error : LowerError) : Steady (throw error : Lower α) :=
  ⟨.error error, fun _ => rfl⟩

lemma lift (result : Except LowerError α) : Steady (liftM result : Lower α) := by
  refine ⟨result, fun s => ?_⟩
  cases result <;> rfl

lemma bind (hx : Steady x) (hf : ∀ a, Steady (f a)) : Steady (x >>= f) := by
  obtain ⟨result, hrun⟩ := hx
  cases result with
  | error error => exact ⟨.error error, fun s => run_bind_error (hrun s)⟩
  | ok a =>
    obtain ⟨next, hnext⟩ := hf a
    exact ⟨next, fun s => (run_bind_ok (hrun s)).trans (hnext s)⟩

lemma map (hx : Steady x) (f : α → β) : Steady (do return f (← x)) :=
  hx.bind fun a => pure (f a)

end Steady

/-- Whatever the lowering gives, in whichever scopes, has the property. -/
def Gives (P : α → Prop) (x : Lower α) : Prop :=
  ∀ ⦃s : Scopes⦄ ⦃a : α⦄ ⦃s' : Scopes⦄, x.run s = .ok (a, s') → P a

namespace Gives

variable {P : α → Prop}

lemma pure {a : α} (h : P a) : Gives P (pure a : Lower α) := by
  intro s b s' hrun
  cases hrun
  exact h

lemma throw (P : α → Prop) (error : LowerError) : Gives P (throw error : Lower α) :=
  nofun

lemma bind (hx : Gives P x) (hf : ∀ a, P a → Gives Q (f a)) : Gives Q (x >>= f) := by
  intro s b s'' hrun
  obtain ⟨a, s', hfirst, hnext⟩ := of_run_bind hrun
  exact hf a (hx hfirst) hnext

lemma imp {Q : α → Prop} (hx : Gives P x) (h : ∀ a, P a → Q a) : Gives Q x :=
  fun _ _ _ hrun => h _ (hx hrun)

lemma after (hf : ∀ a, Gives Q (f a)) : Gives Q (x >>= f) :=
  bind (fun _ _ _ _ => trivial) fun a (_ : True) => hf a

end Gives

/-! ## The errors of a computation -/

section Throws

variable {P : LowerError → Prop} {name : Option String}

/-- Whatever error the lowering fails with, in whichever scopes, has the property. -/
def Throws (P : LowerError → Prop) (x : Lower α) : Prop :=
  ∀ ⦃s : Scopes⦄ ⦃error : LowerError⦄, x.run s = .error error → P error

namespace Throws

lemma pure (a : α) : Throws P (pure a : Lower α) :=
  nofun

lemma throw (h : P error) : Throws P (throw error : Lower α) := by
  intro s error' hrun
  cases hrun
  exact h

lemma lift {result : Except LowerError α} (h : ∀ error, result = .error error → P error) :
    Throws P (liftM result : Lower α) := by
  intro s error hrun
  cases result with
  | ok a => cases hrun
  | error error' =>
    cases hrun
    exact h error rfl

lemma modify (f : Scopes → Scopes) : Throws P (modify f : Lower Unit) :=
  nofun

lemma bind (hx : Throws P x) (hf : ∀ a, Throws P (f a)) : Throws P (x >>= f) := by
  intro s error hrun
  cases hfirst : x.run s with
  | error error' =>
    rw [run_bind_error hfirst] at hrun
    cases hrun
    exact hx hfirst
  | ok p =>
    obtain ⟨a, s'⟩ := p
    rw [run_bind_ok hfirst] at hrun
    exact hf a hrun

lemma map (hx : Throws P x) (f : α → β) : Throws P (do return f (← x)) :=
  hx.bind fun a => pure (f a)

lemma imp {Q : LowerError → Prop} (hx : Throws P x) (h : ∀ error, P error → Q error) : Throws Q x :=
  fun _ _ hrun => h _ (hx hrun)

lemma listMapM {l : List α} (h : ∀ a ∈ l, Throws P (f a)) : Throws P (l.mapM f) := by
  induction l with
  | nil => exact pure _
  | cons a l ih =>
    rw [List.mapM_cons]
    refine (h a (by simp)).bind fun b => ?_
    exact (ih fun a ha => h a (by simp [ha])).map _

lemma inScope (hx : Throws P x) : Throws P (inScope x) :=
  (modify _).bind fun _ => hx.bind fun a => (modify _).bind fun _ => pure a

end Throws

end Throws

def LowerError.IsTold (error : LowerError) : Prop :=
  error ≠ .textEnds

/-! ## Type hints -/

lemma readBase_told {line : Nat} {value : Expr} (h : readBase name line value = .error error) :
    error.IsTold := by
  unfold readBase at h
  split at h
  · cases h
  · cases h
    exact nofun

lemma applyBase_told {line : Nat} {base : String × Option String} {args : List IR.Ty}
    (h : applyBase name line base args = .error error) : error.IsTold := by
  unfold applyBase at h
  split at h
  · cases h
  · cases h
    exact nofun

lemma exists_of_bind_error {β γ : Type} {x : Except LowerError β} {f : β → Except LowerError γ} (h : x >>= f = .error error) :
    x = .error error ∨ ∃ b, x = .ok b ∧ f b = .error error := by
  cases x with
  | error error' =>
    cases h
    exact .inl rfl
  | ok b => exact .inr ⟨b, rfl, h⟩

mutual

lemma readHint_told (name : Option String) (e : Expr)
    (h : readHint name e = .error error) : error.IsTold := by
  rw [readHint.eq_def] at h
  split at h
  · split at h
    · cases h
    · cases h
      exact nofun
  · cases h
  · rcases exists_of_bind_error h with h | ⟨base, -, h⟩
    · exact readBase_told h
    rcases exists_of_bind_error h with h | ⟨args, -, h⟩
    · exact readHints_told name _ h
    · exact applyBase_told h
  · rcases exists_of_bind_error h with h | ⟨base, -, h⟩
    · exact readBase_told h
    rcases exists_of_bind_error h with h | ⟨arg, -, h⟩
    · exact readHint_told name _ h
    · exact applyBase_told h
  · cases h
  · rcases exists_of_bind_error h with h | ⟨left, -, h⟩
    · exact readHint_told name _ h
    rcases exists_of_bind_error h with h | ⟨right, -, h⟩
    · exact readHint_told name _ h
    · cases h
  · rcases exists_of_bind_error h with h | ⟨elements, -, h⟩
    · exact readHints_told name _ h
    · cases h
  · cases h
    exact nofun

lemma readHints_told (name : Option String) (es : List Expr)
    (h : readHints name es = .error error) : error.IsTold := by
  cases es with
  | nil =>
    rw [readHints] at h
    cases h
  | cons e es =>
    rw [readHints] at h
    rcases exists_of_bind_error h with h | ⟨t, -, h⟩
    · exact readHint_told name e h
    · rcases exists_of_bind_error h with h | ⟨ts, -, h⟩
      · exact readHints_told name es h
      · cases h

end

/-! ## Calm steps -/

structure Calm (x : Lower α) : Prop where
  steady : Steady x
  throws : Throws LowerError.IsTold x

namespace Calm

lemma pure (a : α) : Calm (pure a : Lower α) :=
  ⟨.pure a, .pure a⟩

lemma bind {f : α → Lower β} (hx : Calm x) (hf : ∀ a, Calm (f a)) : Calm (x >>= f) :=
  ⟨hx.steady.bind fun a => (hf a).steady, hx.throws.bind fun a => (hf a).throws⟩

lemma map (hx : Calm x) (f : α → β) : Calm (do return f (← x)) :=
  hx.bind fun a => pure (f a)

lemma listMapM {l : List α} (h : ∀ a, Calm (f a)) : Calm (l.mapM f) := by
  induction l with
  | nil => exact pure _
  | cons a l ih =>
    rw [List.mapM_cons]
    exact (h a).bind fun b => ih.map _

end Calm

/-- Lowering that computes or refuses: it has nothing to do with the scopes, it fails only because
something has no counterpart, and what it gives has the property. -/
structure Direct (P : α → Prop) (x : Lower α) : Prop where
  calm : Calm x
  gives : Gives P x

namespace Direct

variable {P : α → Prop}

lemma pure {a : α} (h : P a) : Direct P (pure a : Lower α) :=
  ⟨.pure a, .pure h⟩

lemma unsupported (feature : Feature) (line : Nat) :
    Direct P (unsupported feature line : Lower α) :=
  ⟨⟨.throw _, .throw nofun⟩, .throw P _⟩

lemma bind {f : α → Lower β} (hx : Direct P x)
    (hf : ∀ a, P a → Direct Q (f a)) : Direct Q (x >>= f) := by
  refine ⟨?_, hx.gives.bind fun a ha => (hf a ha).gives⟩
  obtain ⟨result, hrun⟩ := hx.calm.steady
  cases result with
  | error error =>
    have hthrow (s : Scopes) : (x >>= f).run s = .error error := run_bind_error (hrun s)
    refine ⟨⟨.error error, hthrow⟩, fun s error' h => ?_⟩
    rw [hthrow] at h
    cases h
    exact hx.calm.throws (hrun s)
  | ok a =>
    have hnext (s : Scopes) : (x >>= f).run s = (f a).run s := run_bind_ok (hrun s)
    obtain ⟨⟨next, hsteady⟩, hthrows⟩ := (hf a (hx.gives (hrun {}))).calm
    exact ⟨⟨next, fun s => (hnext s).trans (hsteady s)⟩, fun s error h => hthrows (hnext s ▸ h)⟩

lemma imp {Q : α → Prop} (hx : Direct P x) (h : ∀ a, P a → Q a) : Direct Q x :=
  ⟨hx.calm, hx.gives.imp h⟩

end Direct

lemma liftHint_calm (name : Option String) (e : Expr) :
    Calm (liftM (readHint name e) : Lower IR.Ty) :=
  ⟨.lift _, .lift fun _ h => readHint_told name e h⟩

lemma paramType_calm (fault : HintFault) (a : Syntax.Arg) : Calm (paramType fault a) := by
  unfold paramType
  split
  · exact liftHint_calm _ _
  · exact ⟨.throw _, .throw nofun⟩

lemma returns_calm (name : Option String) (returns : Option Expr) :
    Calm (returns.mapM fun e => (liftM (readHint name e) : Lower IR.Ty)) := by
  cases returns with
  | none => exact .pure _
  | some e => exact (liftHint_calm name e).map _

lemma constructorFields_calm (d : FunctionDef) : Calm (constructorFields d) := by
  unfold constructorFields constructorTypes
  refine Calm.bind ((Calm.listMapM fun a => ?_).map _) fun types => (Calm.listMapM fun s => ?_).map _
  · split
    · exact (liftHint_calm _ _).map _
    · exact .pure _
  · unfold assignedFields
    split
    · exact .pure _
    · split
      · exact (liftHint_calm _ _).map _
      · exact .pure _
    · exact .pure _

end Oxidize.Lower
