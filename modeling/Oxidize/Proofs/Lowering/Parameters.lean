import Oxidize.Proofs.Lowering.Calls
import Oxidize.Proofs.Lowering.Taken

/-!
# The parameters of a function that is taken over

A definition keeps its parameters in five places: those that are given by place only, the ordinary
ones, the one that takes the rest, those that are given by name only, and the one that takes the
rest by name. Taking a definition over looks at three of them and passes over an ordinary parameter
called `self`, so a function has the parameters of its definition that are taken, in order and each
with its type and default (`lower_stands`), and it has all that the definition asks for exactly if
none of them is passed over (`params_of_parse`).
-/

namespace Oxidize

open List

namespace Syntax

inductive ParamKind where
  | positional
  | ordinary
  | rest
  | named
  | namedRest
  deriving DecidableEq

def Arg.HasType (a : Arg) (type : IR.Ty) : Prop :=
  ∃ hint, a.hint = some hint ∧ Lower.readHint (some a.name) hint = .ok type

structure Declared where
  kind : ParamKind
  arg : Arg
  default : Option Expr

/-- The parameters, in the order of the signature. The defaults belong to the last of those that
can be given by place, and the named ones carry their own. -/
def Params.signature : Params → List Declared
  | .mk positional ordinary rest named namedDefaults namedRest defaults =>
    let count := positional.length + ordinary.length
    positional.zipIdx.map (fun (a, i) => ⟨.positional, a, Lower.default? defaults count i⟩) ++
      ordinary.zipIdx.map (fun (a, i) =>
        ⟨.ordinary, a, Lower.default? defaults count (positional.length + i)⟩) ++
      rest.toList.map (fun a => ⟨.rest, a, none⟩) ++
      (named.zip namedDefaults).map (fun (a, default) => ⟨.named, a, default⟩) ++
      namedRest.toList.map (fun a => ⟨.namedRest, a, none⟩)

namespace Declared

def isTaken (p : Declared) : Bool :=
  match p.kind with
  | .ordinary => p.arg.name != "self"
  | .rest | .namedRest => true
  | .positional | .named => false

def isReceiver (p : Declared) : Bool :=
  (p.kind = .positional || p.kind = .ordinary) && (p.arg.name == "self" || p.arg.name == "cls")

structure Stands (p : Declared) (q : IR.Param) : Prop where
  name : p.arg.name = q.name
  type : p.arg.HasType q.type
  default : ∀ s, (Lower.operand p.default).run s = .ok (q.default, s)
  isRest : q.isRest = decide (p.kind = .rest)
  isNamedRest : q.isNamedRest = decide (p.kind = .namedRest)

end Declared

/-- What a function must take: a receiver in front is not asked of a method. -/
def required (isMethod : Bool) : List Declared → List Declared
  | p :: rest => if isMethod && p.isReceiver then rest else p :: rest
  | [] => []

lemma required_eq_or (isMethod : Bool) (signature : List Declared) :
    required isMethod signature = signature ∨
      ∃ p, signature = p :: required isMethod signature := by
  cases signature with
  | nil => exact .inl rfl
  | cons p rest =>
    rw [required]
    split
    · exact .inr ⟨p, rfl⟩
    · exact .inl rfl

end Syntax

namespace Lower

open Syntax
open IR (Param Function)
open Syntax.Declared (isTaken)

lemma default?_add (defaults : List Expr) (front count i : Nat) :
    default? defaults (front + count) (front + i) = default? defaults count i := by
  unfold default?
  simp only [Nat.add_assoc, Nat.add_le_add_iff_left, Nat.add_sub_add_left]

lemma paramType_gives (fault : HintFault) (a : Arg) : Gives a.HasType (paramType fault a) := by
  unfold paramType
  split
  case _ hint hhint =>
    intro s type s' hrun
    cases hread : readHint (some a.name) hint with
    | error error =>
      rw [hread] at hrun
      cases hrun
    | ok found =>
      rw [hread] at hrun
      cases hrun
      exact ⟨hint, hhint, hread⟩
  · exact .throw _ _

lemma Steady.gives_run {α : Type} {x : Lower α} (hx : Steady x) :
    Gives (fun a => ∀ s, x.run s = .ok (a, s)) x := by
  obtain ⟨result, hrun⟩ := hx
  intro s a s' h
  cases result with
  | error error => cases (hrun s).symm.trans h
  | ok found =>
    cases (hrun s).symm.trans h
    exact hrun

lemma ordinaryParams_stands (defaults : List Expr) (count : Nat) (args : List (Arg × Nat)) :
    Gives (Forall₂ Declared.Stands ((args.map fun (a, i) =>
        ⟨.ordinary, a, default? defaults count i⟩).filter isTaken))
      (ordinaryParams defaults count args) := by
  induction args with
  | nil => exact .pure .nil
  | cons arg rest ih =>
    obtain ⟨a, i⟩ := arg
    rw [ordinaryParams, map_cons, filter_cons]
    by_cases hself : a.name = "self"
    · simpa [isTaken, hself] using ih
    · simp only [isTaken, beq_iff_eq, hself, bne_iff_ne, ne_eq, not_false_eq_true, if_true,
        if_false]
      refine (paramType_gives _ a).bind fun type htype => ?_
      refine (operand_balance _).calm.steady.gives_run.bind fun default hdefault => ?_
      refine .after fun _ => ?_
      exact ih.bind fun params hparams => .pure (.cons ⟨rfl, htype, hdefault, rfl, rfl⟩ hparams)

/-- A parameter that takes a rest is taken over if what is made of it stands for it. -/
lemma rest_stands (kind : Syntax.ParamKind) {fault : HintFault} {param : Arg → IR.Ty → Param}
    (hparam : ∀ a type, a.HasType type → Declared.Stands ⟨kind, a, none⟩ (param a type))
    (rest : Option Arg) : Gives (Forall₂ Declared.Stands (rest.toList.map fun a => ⟨kind, a, none⟩))
      (rest.toList.mapM fun a => return param a (← paramType fault a)) := by
  refine (Gives.listMapM fun a _ => ?_).imp fun params h => forall₂_map_left_iff.2 h
  exact (paramType_gives fault a).bind fun type htype => .pure (hparam a type htype)

lemma lowerParams_stands (p : Params) :
    Gives (Forall₂ Declared.Stands (p.signature.filter isTaken)) (lowerParams p) := by
  obtain ⟨positional, ordinary, rest, named, namedDefaults, namedRest, defaults⟩ := p
  unfold lowerParams
  refine (ordinaryParams_stands _ _ _).bind fun first hfirst => ?_
  refine (rest_stands .rest (fun a type h => ⟨rfl, h, fun _ => rfl, rfl, rfl⟩) rest).bind
    fun second hsecond => ?_
  refine (rest_stands .namedRest (fun a type h => ⟨rfl, h, fun _ => rfl, rfl, rfl⟩) namedRest).bind
    fun third hthird => .pure ?_
  have hparams := rel_append (rel_append hfirst hsecond) hthird
  simpa [Params.signature, filter_append, filter_map, Function.comp_def,
    isTaken, default?_add, Params.ordinary, Params.defaults] using hparams

lemma lower_stands (lines : List String) (d : FunctionDef) :
    Gives (fun f => Forall₂ Declared.Stands (d.params.signature.filter isTaken) f.params)
      (d.lower lines) := by
  unfold FunctionDef.lower
  refine .inScope ?_
  refine .after fun attributes => ?_
  refine (lowerParams_stands d.params).bind fun params hparams => ?_
  refine .after fun result => ?_
  exact .after fun body => .pure hparams

namespace FunctionDef

/-- The function has the parameters that the definition asks for, in order. Whether it has the
receiver of a method too is left open. -/
def KeepsAll (isMethod : Bool) (d : FunctionDef) (f : Function) : Prop :=
  ∃ kept, (kept = d.params.signature ∨ kept = required isMethod d.params.signature) ∧
    Forall₂ Declared.Stands kept f.params

lemma keepsAll_iff {d : FunctionDef} {f : Function} (isMethod : Bool)
    (hparams : Forall₂ Declared.Stands (d.params.signature.filter isTaken) f.params)
    (hnodup : (d.params.signature.map (·.arg.name)).Nodup) :
    d.KeepsAll isMethod f ↔ ∀ p ∈ required isMethod d.params.signature, p.isTaken = true := by
  have hnames {kept : List Declared} (h : Forall₂ Declared.Stands kept f.params) :
      kept.map (·.arg.name) = f.params.map (·.name) := by
    rw [← forall₂_eq_eq_eq, forall₂_map_left_iff, forall₂_map_right_iff]
    exact h.imp fun _ _ hstands => hstands.name
  constructor
  · rintro ⟨kept, hkept, hstands⟩ p hp
    have hmem : p ∈ d.params.signature ∧ p ∈ kept := by
      rcases required_eq_or isMethod d.params.signature with hall | ⟨front, hfront⟩
      · rw [hall] at hp hkept
        exact ⟨hp, by rcases hkept with rfl | rfl <;> exact hp⟩
      · have hsignature : p ∈ d.params.signature := hfront ▸ mem_cons_of_mem _ hp
        exact ⟨hsignature, by rcases hkept with rfl | rfl; exacts [hsignature, hp]⟩
    -- The name of `p` is that of a taken parameter, and the names tell the parameters apart.
    have hname : p.arg.name ∈ (d.params.signature.filter isTaken).map (·.arg.name) := by
      rw [hnames hparams, ← hnames hstands]
      exact mem_map_of_mem hmem.2
    obtain ⟨taken, htaken, hsame⟩ := mem_map.1 hname
    rw [mem_filter] at htaken
    rw [inj_on_of_nodup_map hnodup hmem.1 htaken.1 hsame.symm]
    exact htaken.2
  · intro htaken
    rcases required_eq_or isMethod d.params.signature with hall | ⟨front, hfront⟩
    · rw [hall] at htaken
      rw [filter_eq_self.2 htaken] at hparams
      exact ⟨_, .inl rfl, hparams⟩
    · rw [hfront, filter_cons, filter_eq_self.2 htaken, ← hfront] at hparams
      split at hparams
      · exact ⟨_, .inl rfl, hparams⟩
      · exact ⟨_, .inr rfl, hparams⟩

structure Keeps (isMethod : Bool) (d : FunctionDef) (f : Function) : Prop where
  /-- It has those that are taken, in order and each with its type and default. -/
  taken : Forall₂ Declared.Stands (d.params.signature.filter isTaken) f.params
  all_iff : (d.params.signature.map (·.arg.name)).Nodup →
    (d.KeepsAll isMethod f ↔ ∀ p ∈ required isMethod d.params.signature, p.isTaken = true)

lemma Yields.keeps {lines : List String} {d : FunctionDef} {f : Function} (isMethod : Bool)
    (h : d.Yields lines f) : d.Keeps isMethod f := by
  obtain ⟨s, g, s', hrun, hf⟩ := h
  have htaken : Forall₂ Declared.Stands (d.params.signature.filter isTaken) f.params := by
    have hlower := lower_stands lines d hrun
    rw [hf]
    exact hlower
  exact ⟨htaken, keepsAll_iff isMethod htaken⟩

end FunctionDef

end Lower

/-- The functions and methods of a module that was read from a source file have, in order, those
parameters of their definitions that are taken. One that must be given by place or by name is passed
over, and so is each that is called `self`. -/
theorem params_of_parse {f : SourceFile} {filename : Option String} {m : IR.Module}
    (hm : f.parse filename = .ok m) :
    ∃ body, f.tree = .ok body ∧
      Forall₂ (Lower.FunctionDef.Keeps false) (Syntax.definitions body) m.functions ∧
      Forall₂ (fun members c =>
        Forall₂ (Lower.FunctionDef.Keeps true) (Syntax.definitions members) c.methods)
        (Syntax.classBodies body) m.classes := by
  obtain ⟨body, htree, hfunctions, hclasses⟩ := yields_of_parse hm
  refine ⟨body, htree, hfunctions.imp fun _ _ h => h.keeps false, hclasses.imp fun _ _ h => ?_⟩
  exact h.methods.imp fun _ _ h => h.yields.keeps true

def joinDef (params : Syntax.Params) : Lower.FunctionDef :=
  ⟨false, "join", params, [.pass 1], [], none, 1⟩

def joinSource (params : Syntax.Params) : SourceFile where
  text := "def join(): pass"
  tree := .ok [.functionDef false "join" params [.pass 1] [] none 1]

def intArg (name : String) : Syntax.Arg :=
  .mk name (some (.name "int" .load 1)) 1

def keptParams : Syntax.Params :=
  .mk [] [intArg "a", intArg "b"] (some (intArg "rest")) [] [] none [.constant (.int 1) none 1]

theorem params_of_parse_joinSource :
    ∃ m f, (joinSource keptParams).parse none = .ok m ∧ m.functions = [f] ∧
      (joinDef keptParams).KeepsAll false f := by
  have hsome : ((joinSource keptParams).parse none).toOption.isSome = true := by decide
  cases hparse : (joinSource keptParams).parse none with
  | error error => simp [hparse, Except.toOption] at hsome
  | ok m =>
    obtain ⟨body, htree, hfunctions, -⟩ := params_of_parse hparse
    cases htree
    obtain ⟨f, rest, hkeeps, hrest, hlist⟩ := forall₂_cons_left_iff.1 hfunctions
    rw [forall₂_nil_left_iff.1 hrest] at hlist
    exact ⟨m, f, rfl, hlist, (hkeeps.all_iff (by decide)).2 (by decide)⟩

/-- Of `a: int, /, b: int, *, c: int` only the second parameter is left. -/
theorem params_lost_joinSource :
    ((joinSource (.mk [intArg "a"] [intArg "b"] none [intArg "c"] [none] none [])).parse
      none).toOption.map (fun m => m.functions.map (·.params.map (·.name))) = some [["b"]] := by
  decide

/-! ## Defaults -/

namespace Lower

open Syntax
open Syntax.Declared (isTaken)

/-- What each of `count` parameters that can be given by place is bound to: the last ones have the
defaults. -/
def boundDefaults (count : Nat) (defaults : List Expr) : List (Option Expr) :=
  List.replicate (count - defaults.length) none ++ defaults.map some

lemma getElem?_boundDefaults {defaults : List Expr} {count i : Nat}
    (hdefaults : defaults.length ≤ count) (hi : i < count) :
    (boundDefaults count defaults)[i]? = some (default? defaults count i) := by
  rw [boundDefaults, default?]
  split
  · have hplace : i + defaults.length - count < defaults.length := by omega
    have hdrop : i - (count - defaults.length) = i + defaults.length - count := by omega
    rw [getElem?_append_right (by simp; omega), length_replicate, hdrop,
      getElem?_map, getElem?_eq_getElem hplace]
    rfl
  · rw [getElem?_append_left (by simp; omega), getElem?_replicate, if_pos (by omega)]

lemma drop_zip_boundDefaults {positional ordinary : List Arg} {defaults : List Expr}
    (h : defaults.length ≤ (positional ++ ordinary).length) :
    ((positional ++ ordinary).zip
        (boundDefaults (positional ++ ordinary).length defaults)).drop positional.length =
      ordinary.zipIdx.map fun (a, i) => (a, default? defaults ordinary.length i) := by
  refine List.ext_getElem? fun i => ?_
  have hbound (hi : i < ordinary.length) := getElem?_boundDefaults h
    (i := positional.length + i) (by rw [List.length_append]; omega)
  rw [List.getElem?_drop, List.zip, List.getElem?_zipWith, List.getElem?_append_right (by omega),
    Nat.add_sub_cancel_left, List.getElem?_map, List.getElem?_zipIdx]
  cases hi : ordinary[i]? with
  | none => rfl
  | some a =>
    rw [hbound (List.getElem?_eq_some_iff.1 hi).1, List.length_append, default?_add]
    simp

/-- Each ordinary parameter other than `self` is taken over with the default that it is bound to,
whether or not defaults reach back to those that are given by place only, and no default is looked
for outside of the list. -/
theorem ordinary_defaults_bound {positional ordinary named : List Arg} {rest namedRest : Option Arg}
    {namedDefaults : List (Option Expr)} {defaults : List Expr}
    (h : defaults.length ≤ (positional ++ ordinary).length) :
    Gives (fun params => Forall₂
        (fun bound q => bound.1.name = q.name ∧ ∀ s, (operand bound.2).run s = .ok (q.default, s))
        ((((positional ++ ordinary).zip (boundDefaults (positional ++ ordinary).length
          defaults)).drop positional.length).filter (·.1.name != "self"))
        (params.filter fun q => !q.isRest && !q.isNamedRest))
      (lowerParams (.mk positional ordinary rest named namedDefaults namedRest defaults)) ∧
    ∀ i < ordinary.length, ordinary.length ≤ i + defaults.length →
      ∃ default ∈ defaults, default? defaults ordinary.length i = some default := by
  refine ⟨fun s params s' hrun => ?_, fun i hi hreach => ?_⟩
  · have hplain := rel_filter (R := Declared.Stands)
      (p := fun d => !decide (d.kind = .rest) && !decide (d.kind = .namedRest))
      (q := fun q => !q.isRest && !q.isNamedRest)
      (fun d q hq => by simp [hq.isRest, hq.isNamedRest]) (lowerParams_stands _ hrun)
    have hordinary : ((Params.mk positional ordinary rest named namedDefaults namedRest
        defaults).signature.filter isTaken).filter
          (fun d => !decide (d.kind = .rest) && !decide (d.kind = .namedRest)) =
        (ordinary.zipIdx.map fun (a, i) => ⟨.ordinary, a, default? defaults ordinary.length i⟩).filter
          (·.arg.name != "self") := by
      simp [Params.signature, filter_map, Function.comp_def, isTaken, default?_add]
    rw [hordinary, filter_map, forall₂_map_left_iff] at hplain
    simp only [drop_zip_boundDefaults h, filter_map, forall₂_map_left_iff]
    exact hplain.imp fun _ _ hq => ⟨hq.name, hq.default⟩
  · have hplace : i + defaults.length - ordinary.length < defaults.length := by omega
    rw [default?, if_pos hreach, getElem?_eq_getElem hplace]
    exact ⟨_, getElem_mem hplace, rfl⟩

/-- Both defaults of `a: int = 1, /, b: int = 2` stay where they are. -/
theorem ordinary_defaults_bound_reachingBack :
    ∃ q s, (lowerParams (.mk [intArg "a"] [intArg "b"] none [] [] none
        [.constant (.int 1) none 1, .constant (.int 2) none 1])).run {} = .ok ([q], s) ∧
      q.name = "b" ∧ (operand (some (.constant (.int 2) none 1))).run {} = .ok (q.default, {}) := by
  refine ⟨_, _, rfl, ?_⟩
  have hbound := (ordinary_defaults_bound (by decide)).1 (rfl : (lowerParams (.mk [intArg "a"]
    [intArg "b"] none [] [] none
      [.constant (.int 1) none 1, .constant (.int 2) none 1])).run {} = .ok _)
  obtain ⟨hname, hdefault⟩ := (forall₂_cons.1 hbound).1
  exact ⟨hname.symm, hdefault _⟩

end Lower

end Oxidize
