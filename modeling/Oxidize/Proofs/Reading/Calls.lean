import Oxidize.Proofs.Emission.Expressions
import Oxidize.Proofs.Reading.Filling

/-!
# What a written call keeps

A call is written by the first rule that applies, and each rule decides which operands it writes:
a template those it has a place for, most built-in functions the first argument, a call that no rule
knows all of them. `Kept` says which operands a rule writes, `callKept` which the rule writes that a
call is written by. Whatever stands in an operand that is kept stands in the written call
(`call_sound`).
-/

namespace Oxidize

open IR (Expr)
open Text

variable {α : Type}

/-! ## What is given in writing an expression -/

/-- In writing an expression from `e`, the action gives `a`. -/
def Yields {α : Type} (e : Emitter) (x : Emit α) (a : α) : Prop :=
  ∃ e', e.Kin e' ∧ (e'.run x).1 = .ok a

namespace Yields

variable {β : Type} {e : Emitter} {a b : α} {Q : α → Prop} {x : Emit α}

lemma run_eq (hx : Plain .light .free Q x) (h : Yields e x a) : (e.run x).1 = .ok a := by
  obtain ⟨e', he, hrun⟩ := h
  rw [← hx.result_congr he, hrun]

lemma eq_of_pure (h : Yields e (pure a) b) : b = a := by
  obtain ⟨e', -, hrun⟩ := h
  exact (Except.ok.inj hrun).symm

variable {f : α → Emit β}

lemma bind {b : β} (hx : Plain .light .free Q x) (h : Yields e (x >>= f) b) :
    ∃ a, Yields e x a ∧ Yields e (f a) b := by
  obtain ⟨e', he, hrun⟩ := h
  rcases hpair : e'.run (x >>= f) with ⟨result, e''⟩
  rw [hpair] at hrun
  obtain rfl : result = .ok b := hrun
  obtain ⟨a, e₁, hfirst, hsecond⟩ := Emitter.of_run_bind hpair
  have hkin := hx.kin_run e'
  rw [hfirst] at hkin
  exact ⟨a, ⟨e', he, by rw [hfirst]⟩, e₁, he.trans hkin, by rw [hsecond]⟩

lemma bind_pure {f : α → β} {b : β} (hx : Plain .light .free Q x)
    (h : Yields e (do return f (← x)) b) : ∃ a, Yields e x a ∧ b = f a := by
  obtain ⟨a, ha, h⟩ := h.bind hx
  exact ⟨a, ha, h.eq_of_pure⟩

lemma context {f : Context → Emit β} {b : β} (h : Yields e (Emit.context >>= f) b)
    (hbare : ∀ c, f c.bare = f c) : Yields e (f e.ctx) b := by
  obtain ⟨e', he, hrun⟩ := h
  rw [Emitter.run_bind_ok (Emitter.run_context e'), ← hbare, he.bare, hbare] at hrun
  exact ⟨e', he, hrun⟩

lemma listMapM {R : α → β → Prop} {l : List α} {bs : List β}
    (hf : ∀ a ∈ l, Mild .free (f a)) (h : Yields e (l.mapM f) bs)
    (hR : ∀ a ∈ l, ∀ b, Yields e (f a) b → R a b) : List.Forall₂ R l bs := by
  induction l generalizing bs with
  | nil =>
    obtain rfl := h.eq_of_pure
    exact .nil
  | cons a l ih =>
    have hl : ∀ a ∈ l, Mild .free (f a) := fun a ha => hf a (by simp [ha])
    rw [List.mapM_cons] at h
    obtain ⟨b, hb, h⟩ := h.bind (hf a (by simp))
    obtain ⟨bs, hbs, rfl⟩ := h.bind_pure (Acts.listMapM hl)
    exact .cons (hR a (by simp) b hb) (ih hl hbs fun a ha => hR a (by simp [ha]))

end Yields

lemma exists_of_forall₂ {β : Type} {R : α → β → Prop} {as : List α} {bs : List β}
    (h : List.Forall₂ R as bs) : ∀ a ∈ as, ∃ b ∈ bs, R a b := by
  intro a ha
  induction h with
  | nil => cases ha
  | @cons a' b as bs hab _ ih =>
    rcases List.mem_cons.1 ha with rfl | ha
    · exact ⟨b, by simp, hab⟩
    · obtain ⟨b', hb', hab'⟩ := ih ha
      exact ⟨b', by simp [hb'], hab'⟩

def Emitter.given {α : Type} (e : Emitter) (x : Emit α) : Option α :=
  (e.run x).1.toOption

def Emitter.found {α : Type} (e : Emitter) (x : Emit (Option α)) : Option α :=
  (e.given x).join

lemma Yields.given_eq {e : Emitter} {a : α} {Q : α → Prop} {x : Emit α}
    (hx : Plain .light .free Q x) (h : Yields e x a) : e.given x = some a := by
  unfold Emitter.given
  rw [h.run_eq hx]
  rfl

lemma Yields.found_eq {e : Emitter} {r : Option α} {Q : Option α → Prop}
    {x : Emit (Option α)} (hx : Plain .light .free Q x) (h : Yields e x r) : e.found x = r := by
  unfold Emitter.found
  rw [h.given_eq hx]
  rfl

/-! ## Operands -/

structure Kept where
  /-- Is the receiver of a method, or the function that is called? -/
  receiver : Bool := false
  args : Nat → Bool := fun _ => false
  named : String → Bool := fun _ => false

namespace Kept

def all : Kept :=
  { receiver := true, args := fun _ => true }

def allArgs : Kept :=
  { args := fun _ => true }

def firstArgs (n : Nat) : Kept :=
  { args := fun i => i < n }

def withReceiver (n : Nat) : Kept :=
  { receiver := true, args := fun i => i < n }

end Kept

structure Operands where
  receiver : Emit String
  texts : List String
  /-- Write the named arguments. -/
  named : List (String × Emit String)

inductive Covers (e : Emitter) (x : String) (o : Operands) (k : Kept) : Prop
  | receiver (hkept : k.receiver = true) (h : ∀ text, Yields e o.receiver text → Stands x text)
  | arg (i : Nat) (text : String) (hkept : k.args i = true) (htext : o.texts[i]? = some text)
    (h : Stands x text)
  | named (key : String) (value : Emit String) (hmem : (key, value) ∈ o.named)
    (hkept : k.named key = true) (h : ∀ text, Yields e value text → Stands x text)

def Sound (e : Emitter) (x : String) (o : Operands) (k : Kept) (code : String) : Prop :=
  Covers e x o k → Stands x code

/-- The rule applies exactly if it keeps something, and it writes what it keeps. -/
def Tracks (e : Emitter) (x : String) (o : Operands) (k : Option Kept)
    (rule : Emit (Option String)) : Prop :=
  ∀ r, Yields e rule r → Option.Rel (Sound e x o) k r

namespace Sound

variable {e : Emitter} {x : String} {o : Operands} {code : String}

lemma nothing : Sound e x o {} code := by
  rintro (⟨hkept, -⟩ | ⟨_, _, hkept, -⟩ | ⟨_, _, _, hkept, -⟩) <;> cases hkept

variable {kept : Nat → Bool}

lemma ofArgs (h : ∀ i text, kept i = true → o.texts[i]? = some text → Stands x text → Stands x code) :
    Sound e x o { args := kept } code := by
  rintro (⟨hkept, -⟩ | ⟨i, text, hkept, htext, hstands⟩ | ⟨_, _, _, hkept, -⟩)
  · cases hkept
  · exact h i text hkept htext hstands
  · cases hkept

lemma ofReceiver {obj : String} (hobj : Yields e o.receiver obj) {keeps : Bool}
    (hreceiver : keeps = true → Stands x obj → Stands x code)
    (h : ∀ i text, kept i = true → o.texts[i]? = some text → Stands x text → Stands x code) :
    Sound e x o { receiver := keeps, args := kept } code := by
  rintro (⟨hkept, hstands⟩ | ⟨i, text, hkept, htext, hstands⟩ | ⟨_, _, _, hkept, -⟩)
  · exact hreceiver hkept (hstands obj hobj)
  · exact h i text hkept htext hstands
  · cases hkept

/-- A rule that writes the receiver, a mark and all arguments. -/
lemma ofCall {obj front mark : String} (hobj : Yields e o.receiver obj)
    (hmark : isOpening mark = true) (hfront : Stands x obj → Sealed x (front ++ mark)) :
    Sound e x o .all (front ++ mark ++ Text.commas o.texts ++ ")") := by
  refine .ofReceiver hobj (fun _ hstands => ?_) fun i text _ htext hstands => ?_
  · exact (((hfront hstands).more _).more _).stands
  · have hcommas := hstands.commas (List.mem_of_getElem? htext)
    exact ((hcommas.after _ mark hmark).seal ")" rfl).stands

lemma ofAll (h : ∀ text ∈ o.texts, Stands x text → Stands x code) : Sound e x o .allArgs code :=
  .ofArgs fun _ text _ htext => h text (List.mem_of_getElem? htext)

lemma ofFirstTwo {a b : String} {rest : List String} (htexts : o.texts = a :: b :: rest)
    (ha : Stands x a → Stands x code) (hb : Stands x b → Stands x code) :
    Sound e x o (.firstArgs 2) code := by
  refine .ofArgs fun i text hkept htext => ?_
  have hi : i < 2 := by simpa using hkept
  obtain rfl | rfl : i = 0 ∨ i = 1 := by omega
  · obtain rfl : a = text := by simpa [htexts] using htext
    exact ha
  · obtain rfl : b = text := by simpa [htexts] using htext
    exact hb

lemma ofFirst (h : ∀ text, o.texts[0]? = some text → Stands x text → Stands x code) :
    Sound e x o (.firstArgs 1) code := by
  refine .ofArgs fun i text hkept htext => ?_
  obtain rfl : i = 0 := by simpa using hkept
  exact h text htext

lemma ofHead {first : String} {rest : List String} (htexts : o.texts = first :: rest)
    (h : Stands x first → Stands x code) : Sound e x o (.firstArgs 1) code := by
  refine .ofFirst fun text htext => ?_
  obtain rfl : first = text := by simpa [htexts] using htext
  exact h

end Sound

namespace Tracks

variable {e : Emitter} {x : String} {o : Operands} {k k₁ k₂ : Option Kept}

lemma of_pure {r : Option String} (h : Option.Rel (Sound e x o) k r) : Tracks e x o k (pure r) := by
  intro r' hr
  obtain rfl := hr.eq_of_pure
  exact h

lemma pure_none : Tracks e x o none (pure none) :=
  .of_pure .none

lemma context {f : Context → Emit (Option String)} (hbare : ∀ c, f c.bare = f c)
    (h : Tracks e x o k (f e.ctx)) : Tracks e x o k (Emit.context >>= f) :=
  fun r hr => h r (hr.context hbare)

variable {rule : Emit (Option String)} {next : Option String → Emit (Option String)}

lemma orElse_of_none (hrule : Mild .free rule) (h₁ : Tracks e x o k₁ rule)
    (h₂ : k₁ = none → Tracks e x o k₂ (next none))
    (hsome : ∀ code, next (some code) = pure (some code)) :
    Tracks e x o (k₁ <|> k₂) (rule >>= next) := by
  intro r hr
  obtain ⟨r₁, hr₁, hr⟩ := hr.bind hrule
  have hrel := h₁ r₁ hr₁
  cases hrel with
  | none => exact h₂ rfl r hr
  | some hsound =>
    rw [hsome] at hr
    obtain rfl := hr.eq_of_pure
    exact .some hsound

lemma orElse (hrule : Mild .free rule) (h₁ : Tracks e x o k₁ rule)
    (h₂ : Tracks e x o k₂ (next none)) (hsome : ∀ code, next (some code) = pure (some code)) :
    Tracks e x o (k₁ <|> k₂) (rule >>= next) :=
  orElse_of_none hrule h₁ (fun _ => h₂) hsome

lemma mapping {Q : Option α → Prop} {search : Emit (Option α)} {kept : α → Kept}
    {write : α → Emit String} {next : Option α → Emit (Option String)}
    (hsearch : Plain .light .free Q search) (hwrite : ∀ m, Mild .free (write m))
    (h : ∀ m code, Yields e (write m) code → Sound e x o (kept m) code)
    (hsome : ∀ m, next (some m) = (do return some (← write m))) (hnone : next none = pure none) :
    Tracks e x o ((e.found search).map kept) (search >>= next) := by
  intro r hr
  obtain ⟨found, hfound, hr⟩ := hr.bind hsearch
  rw [hfound.found_eq hsearch]
  cases found with
  | none =>
    rw [hnone] at hr
    obtain rfl := hr.eq_of_pure
    exact .none
  | some m =>
    rw [hsome] at hr
    obtain ⟨code, hcode, rfl⟩ := hr.bind_pure (hwrite m)
    exact .some (h m code hcode)

end Tracks

/-! ## Mappings -/

namespace Mapping

/-- Is a word in the argument at a position kept when the argument is passed? -/
def passes (m : Mapping) (i : Nat) : Bool :=
  if m.paramTypes.isSet then
    match Emit.typesByPosition m.paramTypes with
    | .ok types => (types[i]?).all fun type => !Text.contains type.text "char"
    | .error _ => false
  else true

def callKept (m : Mapping) : Kept :=
  { args := fun i => Template.showsCallArg (Template.crateIdents m.template.text) i && m.passes i }

end Mapping

namespace Emit

variable {e : Emitter} {x : String} (hx : IsVariable x)

lemma stands_handleResult {code result : String} {fallible : Bool}
    (h : Yields e (handleResult code fallible) result) (hcode : Stands x code) :
    Stands x result := by
  unfold handleResult at h
  split at h
  · obtain rfl := h.eq_of_pure
    exact hcode
  have h := h.context fun _ => rfl
  split at h
  · split at h
    · obtain rfl := h.eq_of_pure
      exact hcode
    · obtain rfl := h.eq_of_pure
      exact (hcode.seal "?" rfl).stands
  · obtain rfl := h.eq_of_pure
    exact (hcode.seal ".unwrap()" rfl).stands

lemma Yields.orValueFault {found : Except ValueFault α} {a : α}
    (h : Yields e (orValueFault found) a) : found = .ok a := by
  cases found with
  | ok b =>
    obtain rfl := h.eq_of_pure
    rfl
  | error fault =>
    obtain ⟨_, -, hrun⟩ := h
    cases hrun

variable {text : String}

lemma text_of_textFor {v : Value} {operation : String}
    (h : v.textFor operation = .ok text) : v.text = text := by
  cases v <;> cases h
  rfl

lemma text_of_searched {v : Value} (h : v.searched = .ok text) : v.text = text := by
  cases v <;> cases h
  rfl

variable {m : Mapping}

lemma Yields.templateOf {template : String} (h : Yields e (templateOf m) template) :
    m.template.text = template :=
  text_of_textFor (Yields.orValueFault h)

include hx

variable {arg : String}

lemma stands_passArg {type passed : String} (h : Yields e (passArg arg type) passed)
    (htype : contains type "char" = false) (harg : Stands x arg) : Stands x passed := by
  unfold passArg at h
  have hpass := Argument.stands_pass hx harg htype
  dsimp only at h
  split at h
  · obtain ⟨_, -, rfl⟩ := h.bind_pure (addMutVar_plain _)
    exact hpass
  · obtain rfl := h.eq_of_pure
    exact hpass

variable {passed : List String}

/-- An argument is kept at its position when it is passed to a parameter that takes no character. -/
lemma exists_passTyped {types : List Value} {args : List String} {i : Nat}
    (h : Yields e (passTyped types args) passed) (harg : args[i]? = some arg)
    (hstands : Stands x arg) (htype : ∀ type ∈ types[i]?, contains type.text "char" = false) :
    ∃ text, passed[i]? = some text ∧ Stands x text := by
  induction types generalizing args passed i with
  | nil =>
    rw [passTyped] at h
    · obtain rfl := h.eq_of_pure
      exact ⟨arg, harg, hstands⟩
    · intro _ _ _ _ hnil
      cases hnil
  | cons type types ih =>
    cases args with
    | nil => simp at harg
    | cons first args =>
      rw [passTyped] at h
      obtain ⟨text, htext, h⟩ := h.bind .orValueFault_free
      obtain ⟨written, hwritten, h⟩ := h.bind (passArg_plain first text)
      obtain ⟨others, hothers, rfl⟩ := h.bind_pure (passTyped_plain .free args)
      cases i with
      | zero =>
        obtain rfl : first = arg := by simpa using harg
        have htype := htype type (by simp)
        rw [text_of_textFor (Yields.orValueFault htext)] at htype
        exact ⟨written, by simp, stands_passArg hx hwritten htype hstands⟩
      | succ i =>
        obtain ⟨text, hmem, hstands⟩ := ih hothers (by simpa using harg) (by simpa using htype)
        exact ⟨text, by simpa using hmem, hstands⟩

lemma exists_passArgs {args : List String} {i : Nat} (h : Yields e (passArgs m args) passed)
    (harg : args[i]? = some arg) (hstands : Stands x arg) (hpasses : m.passes i = true) :
    ∃ text, passed[i]? = some text ∧ Stands x text := by
  unfold passArgs at h
  unfold Mapping.passes at hpasses
  split at h
  · rename_i hset
    rw [Bool.and_eq_true] at hset
    obtain ⟨types, htypes, h⟩ := h.bind .orValueFault_free
    rw [if_pos hset.1, Yields.orValueFault htypes] at hpasses
    refine exists_passTyped hx h harg hstands fun type htype => ?_
    simp only [Option.mem_def.1 htype, Option.all_some, Bool.not_eq_true'] at hpasses
    exact hpasses
  · obtain rfl := h.eq_of_pure
    exact ⟨arg, harg, hstands⟩

/-- A call of a function by its mapping writes the arguments that the template has a place for. -/
lemma handledCall_sound {o : Operands} {code : String}
    (h : Yields e (handledCall m o.texts) code) : Sound e x o m.callKept code := by
  unfold handledCall mappedCall at h
  obtain ⟨result, hresult, h⟩ := h.bind (mappedCall_plain .free o.texts)
  obtain ⟨template, htemplate, hresult⟩ := hresult.bind .orValueFault_free
  obtain ⟨passed, hpassed, hresult⟩ := hresult.bind (passArgs_plain .free o.texts)
  obtain ⟨_, -, rfl⟩ := hresult.bind_pure (needImports_plain .free)
  refine .ofArgs fun i text hkept htext hstands => ?_
  rw [Bool.and_eq_true, text_of_searched (Yields.orValueFault htemplate)] at hkept
  obtain ⟨arg, harg, hstands⟩ := exists_passArgs hx hpassed htext hstands hkept.2
  exact stands_handleResult h (Template.stands_fillCall hx harg hkept.1 hstands)

/-! ## Function calls -/

def packageKept (e : Emitter) (key : String) : Option Kept :=
  (e.found (lookup (Registry.function? key))).map Mapping.callKept

def libraryKept (e : Emitter) (module func : String) : Option Kept :=
  (e.found (lookup (Library.mapping? module func))).map Mapping.callKept

omit hx in
/-- The constructors of dates and spans are among the built-in functions, so a call that these do
not write is none of theirs. -/
lemma calendar?_eq_none {e : Emitter} {module func : String}
    (h : libraryKept e module func = none) : Library.calendar? s!"{module}.{func}" = none := by
  cases hcalendar : Library.calendar? s!"{module}.{func}" with
  | none => rfl
  | some m =>
    have hmem : Library.calendar ∈ Library.builtinTables := by simp [Library.builtinTables]
    have hbuiltin : (Library.builtin? s!"{module}.{func}").isSome = true :=
      List.findSome?_isSome_iff.2 ⟨_, hmem, by rw [← Library.calendar?, hcalendar]; rfl⟩
    obtain ⟨m', hm'⟩ := Option.isSome_iff_exists.1 hbuiltin
    unfold libraryKept Library.mapping? at h
    dsimp only at h
    rw [hm'] at h
    cases h

/-- What a call of a name of the native library, or of one of its members, keeps. -/
def nativeKept (e : Emitter) (owner : String) (member : Option String) : Option Kept :=
  (e.found (nativeMapping? owner member)).map Mapping.callKept

/-- What a call of a member of a name imported from a package keeps. -/
def importedMemberKept (e : Emitter) (owner func : String) : Option Kept :=
  match e.ctx.crateImports.get? owner with
  | some crate => packageKept e s!"{crate}.{e.ctx.packageName owner}.{func}"
  | none => none

def spanKept (owner func : String) (named : List (String × Emit String)) : Option Kept :=
  if owner == "datetime" && func == "timedelta"
      && named.any (fun entry => Calendar.spanUnits.contains entry.1) then
    some { named := Calendar.spanUnits.contains }
  else none

/-- What a call keeps that is written by a mapping of the function. -/
def mappedKept (e : Emitter) (func : Expr) (named : List (String × Emit String)) : Option Kept :=
  match func with
  | .name n _ =>
    nativeKept e n none <|>
      match e.ctx.crateImports.get? n with
      | some crate => packageKept e s!"{crate}.{e.ctx.packageName n}"
      | none => none
  | .attr (.name owner _) member _ =>
    spanKept owner member named <|> nativeKept e owner (some member) <|>
      importedMemberKept e owner member <|> libraryKept e owner member
  | _ => none

section Calls

variable {o : Operands}

lemma packageCall_tracks (key : String) :
    Tracks e x o (packageKept e key) (packageCall key o.texts) :=
  .mapping (.lookup (.function? key)) (fun _ => handledCall_plain .free o.texts)
    (fun _ _ h => handledCall_sound hx h) (fun _ => rfl) rfl

lemma libraryCall_tracks (module func : String) :
    Tracks e x o (libraryKept e module func) (libraryCall module func o.texts) :=
  .mapping (.lookup (mapping?_query module func)) (fun _ => handledCall_plain .free o.texts)
    (fun _ _ h => handledCall_sound hx h) (fun _ => rfl) rfl

lemma nativeCall_tracks (owner : String) (member : Option String) :
    Tracks e x o (nativeKept e owner member) (nativeCall owner member o.texts) :=
  .mapping (nativeMapping?_plain owner member) (fun _ => handledCall_plain .free o.texts)
    (fun _ _ h => handledCall_sound hx h) (fun _ => rfl) rfl

lemma importedMemberCall_tracks (owner func : String) :
    Tracks e x o (importedMemberKept e owner func) (importedMemberCall owner func o.texts) := by
  refine .context (fun _ => rfl) ?_
  unfold importedMemberKept
  cases e.ctx.crateImports.get? owner with
  | none => exact .pure_none
  | some crate => exact packageCall_tracks hx _

lemma importedCall_tracks (n : String) : Tracks e x o (nativeKept e n none <|>
        match e.ctx.crateImports.get? n with
        | some crate => packageKept e s!"{crate}.{e.ctx.packageName n}"
        | none => none)
      (importedCall n o.texts) := by
  refine .orElse (nativeCall_plain n none o.texts) (nativeCall_tracks hx n none) ?_ fun _ => rfl
  refine .context (fun _ => rfl) ?_
  cases e.ctx.crateImports.get? n with
  | none => exact .pure_none
  | some crate => exact packageCall_tracks hx _

omit hx in
lemma namedSpan_tracks (owner func : String)
    (hnamed : ∀ entry ∈ o.named, Mild .free entry.2) :
    Tracks e x o (spanKept owner func o.named) (namedSpan owner func o.named) := by
  intro r hr
  unfold namedSpan at hr
  unfold spanKept
  split at hr
  · rename_i hspan
    rw [hspan, Bool.true_and]
    have hterms : ∀ entry ∈ o.named.filter fun entry => Calendar.spanUnits.contains entry.1,
        Mild .free (do return Calendar.spanOf entry.1 (← entry.2)) := by
      intro entry hentry
      exact (hnamed entry (List.mem_of_mem_filter hentry)).map
    obtain ⟨terms, hmap, hr⟩ := hr.bind (Acts.listMapM hterms)
    have hforall := Yields.listMapM hterms hmap fun _ _ _ h => h
    have hall := exists_of_forall₂ hforall
    obtain rfl := hr.eq_of_pure
    by_cases hany : o.named.any (fun entry => Calendar.spanUnits.contains entry.1) = true
    · obtain ⟨entry, hentry, hunit⟩ := List.any_eq_true.1 hany
      have hne : terms.isEmpty = false := by
        obtain ⟨term, hterm, -⟩ := hall entry (List.mem_filter.2 ⟨hentry, hunit⟩)
        cases terms with
        | nil => cases hterm
        | cons => rfl
      rw [if_pos hany, hne]
      refine .some ?_
      rintro (⟨hkept, -⟩ | ⟨i, text, hkept, -⟩ | ⟨key, value, hmem, hkept, hstands⟩)
      · cases hkept
      · cases hkept
      obtain ⟨term, hterm, hyields⟩ := hall (key, value) (List.mem_filter.2 ⟨hmem, hkept⟩)
      obtain ⟨text, htext, rfl⟩ := hyields.bind_pure (hnamed _ hmem)
      refine Stands.join ?_ hterm rfl rfl
      exact (((hstands text htext).after _ "(" rfl).seal ")" rfl).stands
    · have hnil : o.named.filter (fun entry => Calendar.spanUnits.contains entry.1) = [] := by
        rw [List.filter_eq_nil_iff]
        intro entry hentry hunit
        exact hany (List.any_eq_true.2 ⟨entry, hentry, hunit⟩)
      rw [hnil] at hforall
      cases hforall
      rw [if_neg hany]
      exact .none
  · rename_i hspan
    rw [Bool.eq_false_iff.2 hspan, Bool.false_and, if_neg (by simp)]
    exact Tracks.pure_none r hr

lemma memberCall_tracks (owner func : String)
    (hnamed : ∀ entry ∈ o.named, Mild .free entry.2) : Tracks e x o
      (spanKept owner func o.named <|> nativeKept e owner (some func) <|>
        importedMemberKept e owner func <|> libraryKept e owner func)
      (memberCall owner func o.texts o.named) := by
  refine .orElse (namedSpan_plain owner func hnamed)
    (namedSpan_tracks owner func hnamed) ?_ fun _ => rfl
  refine .orElse (nativeCall_plain owner (some func) o.texts)
    (nativeCall_tracks hx _ _) ?_ fun _ => rfl
  refine .orElse (importedMemberCall_plain owner func o.texts)
    (importedMemberCall_tracks hx _ _) ?_ fun _ => rfl
  exact libraryCall_tracks hx owner func

lemma mappedFunction_tracks (func : Expr)
    (hnamed : ∀ entry ∈ o.named, Mild .free entry.2) :
    Tracks e x o (mappedKept e func o.named) (mappedFunction func o.texts o.named) := by
  unfold mappedKept
  split
  · exact importedCall_tracks hx _
  · exact memberCall_tracks hx _ _ hnamed
  · rename_i hname hattr
    unfold mappedFunction
    split
    · exact absurd rfl (hname _ _)
    · exact absurd rfl (hattr _ _ _ _)
    · exact .pure_none

end Calls

/-! ## Calls that are written by their name -/

def builtinKept (func : String) (args : Nat) : Option Kept :=
  match func with
  | "Some" | "Ok" | "Err" => some .allArgs
  | "range" => if 1 ≤ args ∧ args ≤ 3 then some .allArgs else none
  | "len" | "print" | "str" | "int" | "float" | "set" | "list" => some (.firstArgs 1)
  | "dict" => if args = 0 then some {} else none
  | "open" => if args = 0 then none else some (.firstArgs 1)
  | _ => none

def pathKept (func : String) : Option Kept :=
  (if func == "Path" then Library.pathMethods.get? func else none).map fun m =>
    { args := fun _ => Template.shows m.template.text "args" }

def constructorKept (e : Emitter) (callee : Expr) : Option Kept :=
  match callee with
  | .name n _ =>
    match e.ctx.crateImports.get? n with
    | some crate =>
      if startsUpper? n = some true then packageKept e s!"{crate}.{e.ctx.packageName n}.new"
      else none
    | none => none
  | _ => none

def writtenKept (e : Emitter) (callee : Expr) (func : String) (args : Nat) : Kept :=
  (pathKept func).getD <| (constructorKept e callee).getD <|
    if e.ctx.classNames.contains func then .all else (builtinKept func args).getD .all

def callKept (e : Emitter) (func : Expr) (o : Operands) : Kept :=
  (mappedKept e func o.named).getD (writtenKept e func ((e.given o.receiver).getD "") o.texts.length)

section Written

variable {o : Operands}

variable {code : String} {texts : List String}

omit hx in
lemma sound_getD {k : Option Kept} {k' : Kept} {rule : Emit (Option String)}
    {next : Option String → Emit String} (hrule : Mild .free rule)
    (htracks : Tracks e x o k rule) (h : Yields e (rule >>= next) code)
    (hsome : ∀ code, next (some code) = pure code)
    (hnone : ∀ code, Yields e (next none) code → Sound e x o k' code) :
    Sound e x o (k.getD k') code := by
  obtain ⟨r, hr, h⟩ := h.bind hrule
  cases htracks r hr with
  | none => exact hnone code h
  | some hsound =>
    rw [hsome] at h
    obtain rfl := h.eq_of_pure
    exact hsound

omit hx in
lemma Yields.argument {i : Nat} {a : String} (h : Yields e (argument texts i) a) :
    texts[i]? = some a := by
  unfold Emit.argument at h
  split at h
  · rename_i htext
    obtain rfl := h.eq_of_pure
    exact htext
  · obtain ⟨_, -, hrun⟩ := h
    cases hrun

omit hx in
lemma firstArg_tracks {f : String → String} (h : ∀ text, Stands x text → Stands x (f text)) :
    Tracks e x o (some (.firstArgs 1)) (do return some (f (← argument o.texts 0))) := by
  intro r hr
  obtain ⟨text, htext, rfl⟩ := hr.bind_pure (argument_plain Terms.free_elim)
  refine .some (Sound.ofFirst fun first hfirst hstands => ?_)
  rw [Yields.argument htext] at hfirst
  cases hfirst
  exact h text hstands

omit hx in
lemma collected_tracks (empty : String) {collect : String}
    (hcollect : isClosing collect = true) :
    Tracks e x o (some (.firstArgs 1))
      (match o.texts with
      | [] => pure (some empty)
      | source :: _ => pure (some (toString source ++ collect))) := by
  refine fun r hr => ?_
  rcases htexts : o.texts with _ | ⟨first, rest⟩
  · rw [htexts] at hr
    obtain rfl := hr.eq_of_pure
    refine .some (Sound.ofFirst fun text htext _ => ?_)
    simp [htexts] at htext
  · rw [htexts] at hr
    obtain rfl := hr.eq_of_pure
    refine .some (Sound.ofHead htexts fun hstands => ?_)
    exact (hstands.seal collect hcollect).stands

omit hx in
lemma eq_of_formatCall (hstart : startsWith text "format!(" = true)
    (hend : endsWith text ")" = true) :
    text = "format!(" ++ dropEnd (drop text 8) 1 ++ ")" := by
  unfold startsWith at hstart
  unfold endsWith at hend
  obtain ⟨rest, hrest⟩ := List.isPrefixOf_iff_prefix.1 hstart
  obtain ⟨init, hinit⟩ := List.isSuffixOf_iff_suffix.1 hend
  rcases List.eq_nil_or_concat' rest with rfl | ⟨rest, c, rfl⟩
  · have hlast := congrArg List.getLast? (hrest.trans hinit.symm)
    simp at hlast
  have hc : c = ')' := by
    have heq := hrest.trans hinit.symm
    rw [← List.append_assoc] at heq
    simpa using (List.append_inj' heq rfl).2
  apply String.toList_injective
  rw [String.toList_append, String.toList_append, dropEnd, drop, String.toList_ofList,
    String.toList_ofList, ← hrest, hc]
  simp

variable {args : List Expr}

/-- A printed format string is taken apart, but the operands are in the part that is written. -/
lemma stands_printCall (h : Stands x text) : Stands x (printCall args (text :: texts)) := by
  unfold printCall
  dsimp only
  split
  · rename_i inner hinner
    split at hinner
    · split at hinner
      · rename_i hformat
        rw [Bool.and_eq_true] at hformat
        obtain rfl := Option.some.inj hinner
        rw [eq_of_formatCall hformat.1 hformat.2] at h
        have hinner := (h.dropped hx (by decide)).shifted hx (by decide)
        exact ((hinner.behind "println!(" rfl).seal ")" rfl).stands
      · cases hinner
    · cases hinner
  · have harg := h.borrowed hx
    split
    · exact ((harg.behind "println!(" rfl).seal ")" rfl).stands
    · exact ((harg.behind "println!(\"\x7b\x7d\", " rfl).seal ")" rfl).stands

omit hx in
lemma rangeCall_rel : Option.Rel (Sound e x o)
      (if 1 ≤ o.texts.length ∧ o.texts.length ≤ 3 then some .allArgs else none)
      (rangeCall o.texts) := by
  rcases htexts : o.texts with _ | ⟨a, _ | ⟨b, _ | ⟨c, _ | ⟨d, rest⟩⟩⟩⟩
  · exact .none
  · refine .some (Sound.ofAll fun text hmem hstands => ?_)
    obtain rfl : text = a := by simpa [htexts] using hmem
    exact hstands.behind "0.." rfl
  · refine .some (Sound.ofAll fun text hmem hstands => ?_)
    obtain rfl | rfl : text = a ∨ text = b := by simpa [htexts] using hmem
    · exact ((hstands.seal ".." rfl).more _).stands
    · exact hstands.after _ ".." rfl
  · refine .some (Sound.ofAll fun text hmem hstands => ?_)
    obtain rfl | rfl | rfl : text = a ∨ text = b ∨ text = c := by simpa [htexts] using hmem
    · exact (((((hstands.behind "(" rfl).seal ".." rfl).more _).more _).more _).more _ |>.stands
    · exact ((((hstands.after _ ".." rfl).seal ").step_by(" rfl).more _).more _).stands
    · exact ((hstands.after _ ").step_by(" rfl).seal " as usize)" rfl).stands
  · rw [if_neg (by simp)]
    exact .none

omit hx in
lemma openCall_rel : Option.Rel (Sound e x o)
      (if o.texts.length = 0 then none else some (.firstArgs 1)) (openCall o.texts) := by
  have hsound (head : String) {path : String} {rest : List String} (htexts : o.texts = path :: rest)
      (hhead : isOpening head = true) :
      Sound e x o (.firstArgs 1) (head ++ path ++ ").unwrap()") := by
    refine Sound.ofHead htexts fun hstands => ?_
    exact ((hstands.behind head hhead).seal ").unwrap()" rfl).stands
  rcases htexts : o.texts with _ | ⟨path, _ | ⟨mode, rest⟩⟩
  · exact .none
  · exact .some (hsound "std::fs::File::open(" htexts rfl)
  · rw [if_neg (by simp)]
    unfold openCall
    dsimp only
    split
    · exact .some (hsound "std::fs::File::create(" htexts rfl)
    · exact .some (hsound "std::fs::File::open(" htexts rfl)

lemma builtinCall_tracks (func : String) (args : List Expr) :
    Tracks e x o (builtinKept func o.texts.length) (builtinCall func args o.texts) := by
  intro r hr
  unfold builtinCall at hr
  split at hr
  case h_1 | h_2 | h_3 =>
    obtain rfl := hr.eq_of_pure
    refine .some (Sound.ofAll fun text hmem hstands => ?_)
    exact (((hstands.commas hmem).behind _ rfl).seal ")" rfl).stands
  case h_4 =>
    obtain rfl := hr.eq_of_pure
    exact rangeCall_rel
  case h_5 =>
    obtain ⟨code, hcode, rfl⟩ := hr.bind_pure (lengthCall_plain Terms.free_elim)
    obtain ⟨text, htext, hcode⟩ := (hcode.context fun _ => rfl).bind (argument_plain Terms.free_elim)
    obtain rfl := hcode.eq_of_pure
    refine .some (Sound.ofFirst fun first hfirst hstands => ?_)
    rw [Yields.argument htext] at hfirst
    cases hfirst
    exact ((hstands.seal ".len() as " rfl).more _).stands
  case h_6 =>
    obtain rfl := hr.eq_of_pure
    refine .some (Sound.ofFirst fun text htext hstands => ?_)
    rcases htexts : o.texts with _ | ⟨first, rest⟩
    · simp [htexts] at htext
    · obtain rfl : first = text := by simpa [htexts] using htext
      exact stands_printCall hx hstands
  case h_7 => exact firstArg_tracks (fun text h => (h.seal ".to_string()" rfl).stands) r hr
  case h_8 =>
    refine firstArg_tracks (fun text h => ?_) r hr
    unfold intCall
    split
    · exact (h.seal ".parse::<i64>().unwrap()" rfl).stands
    · exact (h.seal " as i64" rfl).stands
  case h_9 => exact firstArg_tracks (fun text h => (h.seal " as f64" rfl).stands) r hr
  case h_10 => exact collected_tracks "HashSet::new()" rfl r hr
  case h_11 =>
    obtain rfl := hr.eq_of_pure
    rcases o.texts with _ | ⟨first, rest⟩
    · exact .some Sound.nothing
    · exact .none
  case h_12 => exact collected_tracks "Vec::new()" rfl r hr
  case h_13 =>
    obtain rfl := hr.eq_of_pure
    exact openCall_rel
  case h_14 =>
    obtain rfl := hr.eq_of_pure
    have hnone : builtinKept func o.texts.length = none := by
      unfold builtinKept
      split <;> first | rfl | contradiction
    rw [hnone]
    exact .none

omit hx in
lemma pathCall_tracks (func : String) : Tracks e x o (pathKept func) (pathCall func o.texts) := by
  intro r hr
  unfold pathCall at hr
  unfold pathKept
  split at hr
  · rename_i m hm
    rw [hm]
    obtain ⟨template, htemplate, rfl⟩ := hr.bind_pure (templateOf_plain .free)
    refine .some (.ofArgs fun i text hkept htext hstands => ?_)
    rw [Yields.templateOf htemplate] at hkept
    have hcommas := hstands.commas (List.mem_of_getElem? htext)
    exact Template.stands_fill Template.isHoleName_args (Template.hasPlace_of_shows hkept) hcommas
  · rename_i hm
    rw [hm]
    exact Tracks.pure_none r hr

lemma importedConstructor_tracks (callee : Expr) :
    Tracks e x o (constructorKept e callee) (importedConstructor callee o.texts) := by
  unfold constructorKept
  split
  · rename_i n _
    unfold importedConstructor
    refine .context (fun _ => rfl) ?_
    cases e.ctx.crateImports.get? n with
    | none => exact .pure_none
    | some crate =>
      unfold namesClass
      cases startsUpper? n with
      | none =>
        rintro r ⟨_, -, hrun⟩
        cases hrun
      | some upper =>
        cases upper with
        | false => exact .pure_none
        | true => exact packageCall_tracks hx _
  · rename_i hname
    unfold importedConstructor
    split
    · exact absurd rfl (hname _ _)
    · exact .pure_none

lemma writtenCall_sound {callee : Expr} {func : String} (hfunc : Yields e o.receiver func)
    (h : Yields e (writtenCall callee func args o.texts) code) :
    Sound e x o (writtenKept e callee func o.texts.length) code := by
  unfold writtenCall at h
  refine sound_getD (pathCall_plain func o.texts) (pathCall_tracks func) h (fun _ => rfl)
    fun code h => ?_
  refine sound_getD (importedConstructor_plain callee o.texts)
    (importedConstructor_tracks hx callee) h (fun _ => rfl) fun code h => ?_
  have h := h.context fun _ => rfl
  split at h
  · rename_i hclass
    rw [if_pos hclass]
    obtain rfl := h.eq_of_pure
    exact .ofCall hfunc rfl fun hstands => hstands.seal "::new(" rfl
  rename_i hclass
  rw [if_neg hclass]
  refine sound_getD (builtinCall_plain args Terms.free_elim) (builtinCall_tracks hx func args) h
    (fun _ => rfl) fun code h => ?_
  have hcall : Sound e x o .all s!"{func}({Text.commas o.texts})" :=
    .ofCall hfunc rfl fun hstands => hstands.seal "(" rfl
  obtain ⟨passes, -, rfl⟩ := h.bind_pure (passesOn_plain func)
  split
  · exact fun hcovers => ((hcall hcovers).seal "?" rfl).stands
  · exact hcall

/-- What stands in an operand that a function call keeps stands in the written call. -/
lemma call_sound {func : Expr} (hreceiver : Mild .free o.receiver)
    (hnamed : ∀ entry ∈ o.named, Mild .free entry.2)
    (h : Yields e (call func o.receiver args o.texts o.named) code) :
    Sound e x o (callKept e func o) code := by
  unfold call at h
  refine sound_getD (mappedFunction_plain func o.texts hnamed) (mappedFunction_tracks hx func hnamed)
    h (fun _ => rfl) fun code h => ?_
  obtain ⟨written, hwritten, h⟩ := h.bind hreceiver
  rw [hwritten.given_eq hreceiver]
  exact writtenCall_sound hx hwritten h

end Written

end Emit

end Oxidize
