import Oxidize.RustType.Resolver

/-!
# The context of emission

What the emitter knows while it writes a program: where in the program it is, what was imported, and
what it has learned about the variables of the function at hand.
-/

namespace Oxidize

/-- What is known about variables at a point of emission, as far as it decides which of them are
declared there and how they are written. -/
structure Facts where
  typeEnv : Table String := []
  nativeImports : Table String := []
  nativeTypes : NameSet := []
  /-- Variables that are something because a guard left the function otherwise. -/
  narrowed : NameSet := []
  /-- Variables that were declared before a choice that assigns them. -/
  hoisted : NameSet := []
  readVars : NameSet := []
  assignmentCounts : Table Nat := []
  deriving BEq

/-- What is known at a point of emission. -/
structure Context extends Facts where
  indent : Nat := 0
  inImpl : Bool := false
  currentClass : Option String := none
  /-- Is the statement at hand the last one of a block whose value is returned? -/
  inLastStmt : Bool := false
  classNames : NameSet := []
  libraryImports : NameSet := []
  localModules : NameSet := []
  localImports : Table (List (String × Option String)) := []
  /-- The crate from which modules of the same project are imported, if it is not the current
  one. -/
  crateName : Option String := none
  resultFunctions : NameSet := []
  inResult : Bool := false
  inOption : Bool := false
  paramTypes : Table IR.Ty := []
  crateImports : Table String := []
  importAliases : Table String := []
  targetType : Option String := none
  /-- Variables that were taken out of their option by the condition at hand. -/
  unwrapped : NameSet := []
  extraImports : NameSet := []
  inDirectReturn : Bool := false
  storesResult : Bool := false
  mutVars : NameSet := []
  optionVars : NameSet := []
  returnType : Option String := none
  deriving BEq

instance : Coe Context Facts := ⟨Context.toFacts⟩

structure Emitter where
  resolver : Resolver := {}
  ctx : Context := {}

inductive EmitError where
  /-- A `try` statement has both handlers and a final block. -/
  | cleanupAfterHandlers (line : IR.Line)
  /-- A `try` statement with handlers does not begin with a fallible call. -/
  | handlersWithoutResult (line : IR.Line)
  | missingArgument
  | emptyName
  | choiceAsOption
  | builtinAsClass
  | decoration (fault : DecorationError)
  /-- A value of a mapping or a package has not the form that its use needs. -/
  | value (fault : ValueFault)
  deriving DecidableEq

namespace EmitError

/-- The report of an error that the user is told about; the others are faults of the input. -/
def diagnostic? : EmitError → Option Diagnostic
  | .cleanupAfterHandlers line =>
    some { report := .codegen ("try/except/finally is not supported; use Result handling " ++
        "plus Rust scope-based cleanup"), line }
  | .handlersWithoutResult line =>
    some { report := .codegen ("try/except is only supported when the try body starts with " ++
        "a Result-returning call"), line }
  | _ => none

def className (e : EmitError) : String :=
  (e.diagnostic?.map (·.report.className)).getD <| match e with
    | .missingArgument | .emptyName => "IndexError"
    | .decoration fault => fault.className
    | .value fault => fault.className
    | _ => "AttributeError"

end EmitError

/-- Emission: it changes what is known and may fail. What was noted before a failure stays noted. -/
abbrev Emit (α : Type) := ExceptT EmitError (StateM Emitter) α

def Emitter.run {α : Type} (e : Emitter) (action : Emit α) : Except EmitError α × Emitter :=
  ExceptT.run action |>.run e

namespace Emit

def orValueFault {α : Type} : Except ValueFault α → Emit α
  | .ok a => return a
  | .error fault => throw (.value fault)

def context : Emit Context :=
  return (← get).ctx

def change (f : Context → Context) : Emit Unit :=
  modify fun e => { e with ctx := f e.ctx }

def learn (f : Facts → Facts) : Emit Unit :=
  change fun c => { c with toFacts := f c.toFacts }

def resolving {α : Type} (r : Resolve α) : Emit α := do
  let e ← get
  let (a, resolver) := r.run e.resolver
  set { e with resolver }
  return a

def lookup {α : Type} (l : Lookup α) : Emit α :=
  resolving (Resolver.lookup l)

def resolve (t : IR.Ty) : Emit RustType :=
  resolving (Resolver.resolve t)

def note (kind counter : String) (details : Table Value) : Emit Unit :=
  lookup (Registry.note kind counter details)

def margin : Emit String :=
  return Text.times "    " (← context).indent

def indented {α : Type} (body : Emit α) : Emit α := do
  change fun c => { c with indent := c.indent + 1 }
  let a ← body
  change fun c => { c with indent := c.indent - 1 }
  return a

def importPath : Value → Except ValueFault String
  | .str path => .ok path
  | other => do
    let _ ← other.keyText
    .error (.holdsNothing other.form)

def needImports (imports : Value) : Emit Unit := do
  let paths ← orValueFault do (← imports.listed).mapM importPath
  change fun c => { c with libraryImports := c.libraryImports.addAll paths }

def argument (args : List String) (i : Nat) : Emit String :=
  match args[i]? with
  | some a => return a
  | none => throw .missingArgument

end Emit

end Oxidize
