import Oxidize.Proofs.Emission.Items
import Oxidize.Proofs.Lowering.Taken

/-!
# How writing a module can fail

A module that was read from a source file is written, or the user is told about a `try` statement
that has no counterpart, or a fault ends the writing. Every fault has its cause in the module or in
an installed package (`transpile_explained`): a call lacks an argument that a built-in function or
method needs, a function's signature holds a choice between types or a pointer to a value of a
built-in type, an imported name is empty, or a field of a package has another form than its use
needs.
-/

namespace Oxidize

open IR List

/-! ## What leads to a fault -/

namespace IR

/-- Does every call in what is written of the method have the arguments that it needs? Of a
constructor the values of the fields are written. -/
def Function.isSuppliedMethod (f : Function) : Bool :=
  if f.name == "__init__" then fieldsSupplied f.body else blockSupplied f.body

/-- Does every call in what is written of the module have the arguments that it needs? -/
def Module.isSupplied (m : Module) : Bool :=
  (m.functions.all fun f => blockSupplied f.body) &&
    (m.classes.all fun c => c.written.all Function.isSuppliedMethod) &&
    (m.statements.all fun s => Emit.isMainCheck s || Emit.runsAsync s || s.isSupplied)

/-- The functions and methods of a module whose body is written as it is. -/
def Module.bodies (m : Module) : List Function :=
  m.functions ++ m.classes.flatMap fun c => c.written.filter fun f => f.name != "__init__"

end IR

/-- What in a module or in the installed packages can lead to a fault. -/
def EmitError.Cause (m : IR.Module) (registry : Registry) : EmitError → Prop
  | .missingArgument => m.isSupplied = false
  | .emptyName => ∃ i ∈ m.imports, ∃ name ∈ i.names, name.1 = ""
  | .choiceAsOption => ∃ f ∈ m.bodies, f.choosesType = true
  | .builtinAsClass => ∃ f ∈ m.bodies, f.pointsToBuiltin = true
  | .value _ => ∃ p ∈ registry.packages.values, p.isUsable = false
  | .cleanupAfterHandlers _ | .handlersWithoutResult _ | .decoration _ => False

/-- The user is told about the error, or it has its cause in the module or in the installed
packages. -/
def EmitError.Explained (m : IR.Module) (registry : Registry) (error : EmitError) : Prop :=
  error.diagnostic?.isSome = true ∨ error.Cause m registry

/-! ## Modules of source files -/

/-- The terms on which a module is written: it may name every crate and module, and it ends with an
explained error only. -/
def explaining (m : IR.Module) (registry : Registry) : Terms :=
  ⟨Any, Any, EmitError.Explained m registry⟩

section Explained

variable {m : IR.Module} {registry : Registry}

lemma isSupplied_of_not_explained
    (h : ¬ EmitError.Explained m registry .missingArgument) : m.isSupplied = true := by
  cases hm : m.isSupplied with
  | true => rfl
  | false => exact absurd (.inr hm) h

lemma bodyReady_of_mem {f : Function} (hf : f ∈ m.bodies)
    (hsupplied : m.isSupplied = true → IR.blockSupplied f.body = true) :
    BodyReady (explaining m registry) f where
  supplied hE := hsupplied (isSupplied_of_not_explained hE)
  types hE := Bool.eq_false_iff.2 fun htype => hE (.inr ⟨f, hf, htype⟩)
  pointers hE := Bool.eq_false_iff.2 fun hpointer => hE (.inr ⟨f, hf, hpointer⟩)

lemma methodReady_of_mem {c : IR.Class} (hc : c ∈ m.classes)
    (hmethods : ∀ f ∈ c.methods, f.Taken) {f : Function} (hf : f ∈ c.written) :
    MethodReady (explaining m registry) f := by
  have hmethod (hm : m.isSupplied = true) : f.isSuppliedMethod = true := by
    simp only [IR.Module.isSupplied, Bool.and_eq_true, all_eq_true] at hm
    exact hm.1.2 c hc f hf
  refine ⟨fun hinit hE => ?_, fun hinit => ?_, fun _ => (hmethods f (mem_filter.1 hf).1).decoration⟩
  · have hfields := hmethod (isSupplied_of_not_explained hE)
    rwa [IR.Function.isSuppliedMethod, if_pos (beq_iff_eq.2 hinit)] at hfields
  · refine bodyReady_of_mem (mem_append_right _ (mem_flatMap.2 ⟨c, hc, ?_⟩))
      fun hm => ?_
    · exact mem_filter.2 ⟨hf, bne_iff_ne.2 hinit⟩
    · have hbody := hmethod hm
      rwa [IR.Function.isSuppliedMethod, if_neg fun h => hinit (beq_iff_eq.1 h)] at hbody

/-- A module that was read from a source file can be written without any other fault than those
whose cause it holds. -/
lemma moduleReady_of_parse {f : SourceFile} {filename : Option String}
    (hm : f.parse filename = .ok m) (registry : Registry) :
    ModuleReady (explaining m registry) m := by
  obtain ⟨hfunctions, hclasses⟩ := taken_of_parse hm
  refine ⟨fun error htold => .inl htold, fun _ _ => trivial, fun hE i hi name hname hempty => ?_,
    fun f hf => ?_, fun c hc => ?_, fun s hs hcheck hasync hE => ?_⟩
  · exact hE (.inr ⟨i, hi, name, hname, hempty⟩)
  · refine ⟨bodyReady_of_mem (mem_append_left _ hf) fun hsupplied => ?_,
      fun _ => (hfunctions f hf).decoration⟩
    simp only [IR.Module.isSupplied, Bool.and_eq_true, all_eq_true] at hsupplied
    exact hsupplied.1.1 f hf
  · obtain ⟨hdecoration, hmethods⟩ := hclasses c hc
    exact ⟨fun f hf => methodReady_of_mem hc hmethods hf, fun _ => hdecoration⟩
  · have hsupplied := isSupplied_of_not_explained hE
    simp only [IR.Module.isSupplied, Bool.and_eq_true, all_eq_true] at hsupplied
    have hs' := hsupplied.2 s hs
    rwa [hcheck, hasync] at hs'

lemma registry_ofModule (registry : Registry) (m : IR.Module) :
    (Resolver.ofModule registry m).registry = registry := by
  have hclasses (classes : List IR.Class) (r : Resolver) :
      (classes.foldl (fun r c => r.register c.name) r).registry = r.registry := by
    induction classes generalizing r with
    | nil => rfl
    | cons c classes ih => exact ih _
  exact hclasses m.classes { registry }

lemma within_start (localModules : List String) (crateName : Option String) :
    (Emitter.start (Resolver.ofModule registry m) localModules crateName).Within
      (explaining m registry) := by
  refine ⟨⟨fun _ _ => trivial, fun _ => rfl, fun _ => nofun⟩, fun _ _ => trivial,
    fun _ _ _ _ _ _ _ => trivial, fun p hp hE => ?_⟩
  have hp : p ∈ registry.packages.values := registry_ofModule registry m ▸ hp
  obtain ⟨fault, hfault⟩ := hE
  cases husable : p.isUsable with
  | true => rfl
  | false => exact absurd (.inr ⟨p, hp, husable⟩) hfault

end Explained

/-- A module that was read from a source file is written, or the user is told why not, or the module
or an installed package holds the cause of the fault, whatever packages are installed and whatever
other modules the project has. -/
theorem transpile_explained {f : SourceFile} {filename : Option String} {m : IR.Module}
    (hm : f.parse filename = .ok m) (registry : Registry) (localModules : List String)
    (crateName : Option String) :
    (∃ text, (transpile registry m localModules crateName).1 = .ok text) ∨
      ∃ error, (transpile registry m localModules crateName).1 = .error error ∧
        (error.diagnostic?.isSome = true ∨ error.Cause m registry) := by
  obtain ⟨-, herrors, -⟩ := (Emit.module_built (moduleReady_of_parse hm registry)).run_spec
    (fun _ hf => hf) _ (within_start localModules crateName)
  cases hresult : (transpile registry m localModules crateName).1 with
  | ok text => exact .inl ⟨text, rfl⟩
  | error error => exact .inr ⟨error, rfl, herrors error hresult⟩

def functionFile (text : String) (params : List Syntax.Arg) (result : Syntax.Expr)
    (body : List Syntax.Stmt) : SourceFile where
  text := text
  tree := .ok [.functionDef false "f" (.mk [] params none [] [] none []) body [] (some result) 1]

def cleaningFile : SourceFile :=
  functionFile "def f() -> None:\n    try: g()\n    except E: pass\n    finally: pass\n" []
    (.constant .none none 1)
    [.tryStmt [.expr (.call (.name "g" .load 2) [] [] 2) 2]
      [(some (.name "E" .load 3), none, [.pass 3])] [] [.pass 4] 2]

/-- A function that asks for the length of nothing. -/
def lengthFile : SourceFile :=
  functionFile "def f() -> int:\n    return len()\n" [] (.name "int" .load 1)
    [.ret (some (.call (.name "len" .load 2) [] [] 2)) 2]

def choosingFile : SourceFile :=
  functionFile "def f(x: int | str) -> None:\n    pass\n"
    [⟨"x", some (.binOp (.name "int" .load 1) .bitOr (.name "str" .load 1) 1), 1⟩]
    (.constant .none none 1) [.pass 2]

/-- The error that ends the writing of the module in the file, without any package. -/
def writingError? (f : SourceFile) : Option EmitError :=
  match f.parse none with
  | .ok m =>
    match (transpile {} m [] none).1 with
    | .ok _ => none
    | .error error => some error
  | .error _ => none

lemma exists_of_writingError? {f : SourceFile} {error : EmitError}
    (h : writingError? f = some error) :
    ∃ m, f.parse none = .ok m ∧ (transpile {} m [] none).1 = .error error := by
  unfold writingError? at h
  split at h
  · rename_i m hm
    split at h <;> cases h
    exact ⟨m, hm, ‹_›⟩
  · cases h

theorem transpile_explained_cleaningFile :
    ∃ m, cleaningFile.parse none = .ok m ∧
      ((∃ text, (transpile {} m [] none).1 = .ok text) ∨
        ∃ error, (transpile {} m [] none).1 = .error error ∧
          (error.diagnostic?.isSome = true ∨ error.Cause m {})) := by
  have herror : writingError? cleaningFile = some (.cleanupAfterHandlers (some 2)) := by
    decide +kernel
  obtain ⟨m, hm, -⟩ := exists_of_writingError? herror
  exact ⟨m, hm, transpile_explained hm {} [] none⟩

/-- Faults that the user is not told about end the writing of modules that were read: a call of
`len` has no argument, or the type of a parameter is a choice between types. -/
theorem transpile_not_told :
    (∃ m, lengthFile.parse none = .ok m ∧ ∃ error, (transpile {} m [] none).1 = .error error ∧
      error.diagnostic? = none) ∧
    ∃ m, choosingFile.parse none = .ok m ∧ ∃ error, (transpile {} m [] none).1 = .error error ∧
      error.diagnostic? = none := by
  have hlength : writingError? lengthFile = some .missingArgument := by decide +kernel
  have hchoice : writingError? choosingFile = some .choiceAsOption := by decide +kernel
  obtain ⟨m, hm, herror⟩ := exists_of_writingError? hlength
  obtain ⟨m', hm', herror'⟩ := exists_of_writingError? hchoice
  exact ⟨⟨m, hm, _, herror, rfl⟩, m', hm', _, herror', rfl⟩

end Oxidize
