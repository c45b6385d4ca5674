import Oxidize.Command.Generate
import Oxidize.Command.Install
import Oxidize.Command.Transpile

/-!
# The two tools

One tool transpiles and lists source files; the other generates, validates, builds and installs stub
packages.
-/

namespace Oxidize.Command

/-! ## Options and arguments -/

inductive OptionKind where
  | flag (on : Bool)
  | value

structure OptionSpec where
  names : List String
  about : String
  kind : OptionKind := .flag true

/-- Why a command line cannot be used. -/
inductive UsageFault where
  | unknownOption (name : String)
  | missingValue (name : String)
  | surplusValue (name : String)
  | missingArgument
  | surplusArgument (argument : String)
  | unknownCommand (name : String)
  | missingPath (path : String)
  | notDirectory (path : String)

def UsageFault.message : UsageFault → String
  | unknownOption name => s!"No such option: {name}"
  | missingValue name => s!"Option '{name}' requires an argument."
  | surplusValue name => s!"Option '{name}' does not take a value."
  | missingArgument => "Missing argument."
  | surplusArgument argument => s!"Got unexpected extra argument ({argument})"
  | unknownCommand name => s!"No such command '{name}'."
  | missingPath path => s!"Path '{path}' does not exist."
  | notDirectory path => s!"Directory '{path}' is a file."

structure Given where
  flags : Table Bool := []
  values : Table String := []
  arguments : List String := []

namespace Given

def isOn (g : Given) (about : String) (otherwise : Bool := false) : Bool :=
  (g.flags.get? about).getD otherwise

def value? (g : Given) (about : String) : Option String :=
  g.values.get? about

def text? (g : Given) (about : String) : Option String :=
  (g.value? about).filter (· != "")

def withFlag (g : Given) (about : String) (on : Bool) : Given :=
  { g with flags := g.flags.set about on }

def withValue (g : Given) (about value : String) : Given :=
  { g with values := g.values.set about value }

end Given

def findOption (specs : List OptionSpec) (name : String) : Option OptionSpec :=
  specs.find? (·.names.contains name)

/-- What is known after a word: all of it is read, or the next word is the value of an option. -/
inductive Pending where
  | complete (given : Given)
  | needsValue (given : Given) (name about : String)

def readShort (specs : List OptionSpec) (given : Given) :
    List Char → Except UsageFault Pending
  | [] => .ok (.complete given)
  | c :: rest =>
    let name := String.ofList ['-', c]
    match findOption specs name with
    | none => .error (.unknownOption name)
    | some spec =>
      match spec.kind with
      | .flag on => readShort specs (given.withFlag spec.about on) rest
      | .value =>
        if rest.isEmpty then .ok (.needsValue given name spec.about)
        else .ok (.complete (given.withValue spec.about (String.ofList rest)))

def readOption (specs : List OptionSpec) (given : Given) (word : String) :
    Except UsageFault Pending :=
  if Text.startsWith word "--" then
    let (name, value?) := match Text.cut? word "=" with
      | some (name, value) => (name, some value)
      | none => (word, none)
    match findOption specs name with
    | none => .error (.unknownOption name)
    | some spec =>
      match spec.kind, value? with
      | .flag on, none => .ok (.complete (given.withFlag spec.about on))
      | .flag _, some _ => .error (.surplusValue name)
      | .value, some value => .ok (.complete (given.withValue spec.about value))
      | .value, none => .ok (.needsValue given name spec.about)
  else readShort specs given (word.toList.drop 1)

def isOption (word : String) : Bool :=
  Text.startsWith word "-" && word != "-"

/-- Read words, or, if `leading`, only the options that stand before the first argument. What is
left after that, or after two dashes, is not read. -/
def readWords (specs : List OptionSpec) (leading : Bool) (given : Given) :
    List String → Except UsageFault (Given × List String)
  | [] => .ok (given, [])
  | word :: rest =>
    if word == "--" then .ok (given, rest)
    else if isOption word then
      match readOption specs given word with
      | .error fault => .error fault
      | .ok (.complete given) => readWords specs leading given rest
      | .ok (.needsValue given name about) =>
        match rest with
        | [] => .error (.missingValue name)
        | value :: others => readWords specs leading (given.withValue about value) others
    else if leading then .ok (given, word :: rest)
    else readWords specs leading { given with arguments := given.arguments ++ [word] } rest

def readCommand (specs : List OptionSpec) (words : List String) :
    Except UsageFault (String × Given) := do
  let (given, rest) ← readWords specs false {} words
  match given.arguments ++ rest with
  | [] => throw .missingArgument
  | [argument] => return (argument, given)
  | _ :: surplus :: _ => throw (.surplusArgument surplus)

/-! ## Listing what a source file imports and defines -/

def importLine (i : IR.Import) : String :=
  if i.names.isEmpty then s!"  import {i.module}"
  else
    let names := Text.commas (i.names.map (·.1))
    s!"  from {i.module} import {names}"

def functionLines (verbose : Bool) (f : IR.Function) : List String :=
  let params := Text.commas (f.params.map fun p =>
    let type := p.type.display
    s!"{p.name}: {type}")
  let result := (f.result.map fun t => " -> " ++ t.display).getD ""
  [s!"  def {f.name}({params}){result}"] ++
    if verbose && !f.body.isEmpty then [s!"      {f.body.length} statement(s)"] else []

def classLines (verbose : Bool) (c : IR.Class) : List String :=
  let mark := if c.isDataclass then "@dataclass " else ""
  let names := Text.commas c.bases
  let bases := if c.bases.isEmpty then "" else s!"({names})"
  [s!"  {mark}class {c.name}{bases}"] ++
    if verbose then
      [s!"      Fields: {c.fields.length}", s!"      Methods: {c.methods.length}"] ++
        if c.hasEnter && c.hasExit then ["      Context manager: yes"] else []
    else []

def moduleLines (verbose : Bool) (m : IR.Module) : List String :=
  [s!"Module: {m.name}"] ++
    ((m.docstring.filter (· != "")).toList.map fun doc =>
      let start := Text.take doc 50
      s!"Docstring: {start}...") ++
    [s!"\nImports ({m.imports.length}):"] ++ m.imports.map importLine ++
    [s!"\nFunctions ({m.functions.length}):"] ++ m.functions.flatMap (functionLines verbose) ++
    [s!"\nClasses ({m.classes.length}):"] ++ m.classes.flatMap (classLines verbose)

def list (verbose : Bool) (path : String) : Shell Unit := do
  match ← readSource path with
  | .ok m => sayAll (moduleLines verbose m)
  | .error message => fail message

/-! ## Reading commands -/

inductive Tool where
  | transpiler
  | stubs

def version : String := "0.1.3"

def refuseUsage {α : Type} (fault : UsageFault) : Shell α := do
  let message := fault.message
  say s!"Error: {message}"
  quit 2

def wordsOf (specs : List OptionSpec) (words : List String) : Shell (String × Given) :=
  match readCommand specs words with
  | .ok read => return read
  | .error fault => refuseUsage fault

def requirePath (path : String) : Shell Unit := do
  if !(← tree).has path then refuseUsage (.missingPath path)

def requireDirectory (path : String) : Shell Unit := do
  requirePath path
  if !(← tree).isDirectory path then refuseUsage (.notDirectory path)

def findCommand (commands : List (String × (List String → Shell Unit))) (name : String) :
    Shell (List String → Shell Unit) :=
  match commands.lookup name with
  | some command => return command
  | none => refuseUsage (.unknownCommand name)

/-! ## The transpiler -/

def listOptions : List OptionSpec :=
  [⟨["--verbose", "-v"], "verbose", .flag true⟩]

def transpileOptions : List OptionSpec :=
  [⟨["--output", "-o"], "output", .value⟩,
   ⟨["--check", "-c"], "check", .flag true⟩,
   ⟨["--verbose", "-v"], "verbose", .flag true⟩,
   ⟨["--format"], "format", .flag true⟩,
   ⟨["--no-format"], "format", .flag false⟩,
   ⟨["--name", "-n"], "name", .value⟩,
   ⟨["--debug-log"], "log", .flag true⟩]

def runList (words : List String) : Shell Unit := do
  let (path, given) ← wordsOf listOptions words
  requirePath path
  list (given.isOn "verbose") (Path.normal path)

def runTranspile (words : List String) : Shell Unit := do
  let (path, given) ← wordsOf transpileOptions words
  requirePath path
  transpilePath
    { output := Path.normal ((given.value? "output").getD "./rusty")
      check := given.isOn "check"
      verbose := given.isOn "verbose"
      format := given.isOn "format" true
      name? := given.text? "name"
      log := given.isOn "log" } (Path.normal path)

def transpilerCommands : List (String × (List String → Shell Unit)) :=
  [("parse", runList), ("transpile", runTranspile)]

def runTranspiler (words : List String) : Shell Unit := do
  match readWords [⟨["--version", "-V"], "version", .flag true⟩] true {} words with
  | .error fault => refuseUsage fault
  | .ok (given, words) =>
    let command ← match words with
      | [] => pure none
      | name :: words => pure (some ((← findCommand transpilerCommands name), words))
    if given.isOn "version" then say s!"crabpy {version}"
    else
      match command with
      | some (run, words) => run words
      | none => refuseUsage .missingArgument

/-! ## The tool for stubs -/

def buildOptions : List OptionSpec :=
  [⟨["--output", "-o"], "output", .value⟩]

def installOptions : List OptionSpec :=
  [⟨["--version", "-v"], "version", .value⟩,
   ⟨["--repo"], "repository", .value⟩]

def generateOptions : List OptionSpec :=
  [⟨["-o", "--output"], "output", .value⟩,
   ⟨["-v", "--version"], "version", .value⟩,
   ⟨["--local"], "local", .flag true⟩,
   ⟨["-n", "--name"], "name", .value⟩,
   ⟨["--debug-log"], "log", .flag true⟩]

def runValidate (words : List String) : Shell Unit := do
  let (path, _) ← wordsOf [] words
  requireDirectory path
  validate (Path.normal path)

def runBuild (words : List String) : Shell Unit := do
  let (path, given) ← wordsOf buildOptions words
  requireDirectory path
  build (Path.normal path) ((given.value? "output").map Path.normal)

def runInstall (words : List String) : Shell Unit := do
  let (package, given) ← wordsOf installOptions words
  install package (given.text? "version") ((given.value? "repository").getD stubRepository)

def runSearch (words : List String) : Shell Unit := do
  let (query, _) ← wordsOf [] words
  search query

def runGenerate (words : List String) : Shell Unit := do
  let (crate, given) ← wordsOf generateOptions words
  generate
    { output := Path.normal ((given.value? "output").getD ".")
      version? := given.value? "version"
      isLocal := given.isOn "local"
      log := given.isOn "log" } crate

def stubCommands : List (String × (List String → Shell Unit)) :=
  [("validate", runValidate), ("build", runBuild), ("install", runInstall),
   ("search", runSearch), ("generate", runGenerate)]

def runStubs (words : List String) : Shell Unit := do
  match readWords [] true {} words with
  | .error fault => refuseUsage fault
  | .ok (_, []) => refuseUsage .missingArgument
  | .ok (_, name :: words) => (← findCommand stubCommands name) words

/-! ## Running -/

/-- Run a tool: its exit code, or a fault, and the session after it. -/
def run (tool : Tool) (words : List String) (session : Session) : Except Fault Nat × Session :=
  let steps := match tool with
    | .transpiler => runTranspiler words
    | .stubs => runStubs words
  match (steps.run).run session with
  | (.ok (), after) => (.ok 0, after)
  | (.error (.exit code), after) => (.ok code, after)
  | (.error (.refused message), after) =>
    (.ok 1, { after with output := after.output ++ s!"Error: {message}\n" })
  | (.error (.fault fault), after) => (.error fault, after)

end Oxidize.Command
