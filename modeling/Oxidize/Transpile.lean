import Oxidize.Emit.Module
import Oxidize.Lower.Item
import Oxidize.Syntax.Document

/-!
# From a source module to the target language

A source file is its text together with its syntax tree, or with the reason why it has none.
-/

namespace Oxidize

/-- Why a text is no program. -/
structure Malformed where
  message : String
  line : Option Nat := none
  deriving DecidableEq

structure SourceFile where
  text : String
  tree : Except Malformed (List Syntax.Stmt)

/-- Why a source file cannot be taken over. -/
inductive SourceError where
  | malformed (fault : Malformed)
  | refused (error : Lower.LowerError)
  deriving DecidableEq

namespace SourceError

def diagnostic? (filename : Option String) : SourceError → Option Diagnostic
  | .malformed fault =>
    some { report := .parse s!"Syntax error: {fault.message}", filename
           line := fault.line.map Int.ofNat }
  | .refused error => error.diagnostic? filename

end SourceError

namespace SourceFile

/-- The source file whose tree is given as a document: a module, or what is wrong with the text. -/
def ofDocument (text : String) (tree : Value) : SourceFile :=
  match tree.field? "syntax_error" with
  | some message =>
    { text, tree := .error { message := message.text, line := tree.natAt? "line" } }
  | none => { text, tree := .ok (Syntax.moduleOf tree) }

def parse (f : SourceFile) (filename : Option String) : Except SourceError IR.Module :=
  match f.tree with
  | .error fault => .error (.malformed fault)
  | .ok body =>
    match (Lower.module (Text.lines f.text) filename body).run {} with
    | .ok (m, _) => .ok m
    | .error e => .error (.refused e)

end SourceFile

/-- Write a module in the target language, with the packages of a registry, as part of a project
with the given modules. The registry is returned with what was logged. -/
def transpile (registry : Registry) (m : IR.Module) (localModules : List String := [])
    (crateName : Option String := none) : Except EmitError String × Registry :=
  let emitter := Emitter.start (Resolver.ofModule registry m) localModules crateName
  let (text, after) := emitter.run (Emit.module m)
  (text, after.resolver.registry)

end Oxidize
