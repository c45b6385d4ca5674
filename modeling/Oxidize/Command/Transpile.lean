import Oxidize.Command.Session
import Oxidize.Manifest.Basic
import Oxidize.Transpile

/-!
# Transpiling files and directories

A source file becomes a project of its own; the source files below a directory become the modules of
one project.
-/

namespace Oxidize.Command

structure TranspileOptions where
  output : String
  check : Bool := false
  verbose : Bool := false
  format : Bool := true
  name? : Option String := none
  log : Bool := false

/-! ## Reading -/

def readSource (path : String) : Shell (Except String IR.Module) := do
  let file ← orFault .file ((← tree).read path)
  let source := SourceFile.ofDocument (Text.asRead file.text) (file.content?.getD .null)
  match source.parse (some path) with
  | .ok m => return .ok m
  | .error e =>
    match e.diagnostic? (some path) with
    | some d => return .error d.text
    | none => throw (.fault .lowering)

def moduleNameOf (path : String) : String :=
  Text.replaceAll (Path.stem path) "-" "_"

def configuration? (t : Tree) (directory name : String) : Option Value :=
  (t.file? (Path.join directory name)).bind (·.content?)

def askedFeatures (t : Tree) (directory : String) : Value :=
  Features.ofConfigs (configuration? t directory "pyproject.toml")
    (configuration? t directory "spicycrab.toml")

/-! ## Code -/

def rustOf (m : IR.Module) (modules : List String := []) : Shell String := do
  let (text, registry) := transpile (← get).registry m modules none
  modify fun s => { s with registry }
  match text with
  | .ok text => return text
  | .error e =>
    match e.diagnostic? with
    | some d => fail d.text
    | none => throw (.fault (.emission e))

def checked (o : TranspileOptions) (source code : String) : Shell String := do
  let name := Path.name source
  let tell (line : String) : Shell Unit := if o.verbose then say line else pure ()
  match (← get).checker with
  | .rejects reason => fail s!"Generated invalid Rust from {source}:\n{reason}"
  | .accepts heading =>
    if o.format then
      tell s!"  ✓ Validated and formatted {name}"
      return heading ++ code
    else
      tell s!"  ✓ Validated Rust syntax for {name}"
      return code
  | .missing =>
    tell (if o.format then "  (prettyplease unavailable, falling back to rustfmt)"
      else "  (Rust validation unavailable, skipping)")
    return code

def writeTold (o : TranspileOptions) (path text : String) : Shell Unit := do
  write path text
  if o.verbose then say s!"  Wrote {path}"

def hasMain (m : IR.Module) : Bool :=
  m.functions.any (·.name == "main")

def usesValues (code : String) : Bool :=
  Text.contains code "serde_json::"

def writeManifest (o : TranspileOptions) (directory : String) (p : Project) : Shell Unit := do
  let s ← get
  let text ← orFault .value (Manifest.render s.registry (askedFeatures s.files directory) p)
  writeTold o (Path.join o.output "Cargo.toml") text

def saveLogTold (o : TranspileOptions) : Shell Unit := do
  if o.log then
    match ← saveLog o.output with
    | some path => if o.verbose then say s!"  Debug log: {path}"
    | none => pure ()

def makeProject (o : TranspileOptions) : Shell String := do
  makeDirectory o.output
  let code := Path.join o.output "src"
  makeDirectory code
  if o.verbose then say s!"Generating Rust project in {o.output}..."
  return code

/-! ## One file -/

def transpileFile (o : TranspileOptions) (path : String) : Shell Unit := do
  if o.log then startLog "transpile" (Path.stem path)
  if o.verbose then say s!"Parsing {path}..."
  let m ← match ← readSource path with
    | .ok m => pure m
    | .error message => fail message
  if o.verbose then
    sayAll [s!"  Found {m.functions.length} function(s)", s!"  Found {m.classes.length} class(es)",
      s!"  Found {m.imports.length} import(s)"]
  if o.check then say s!"OK: {path}"
  else
    let code ← makeProject o
    let text ← checked o path (← rustOf m)
    if hasMain m then writeTold o (Path.join code "main.rs") text
    else
      writeTold o (Path.join code "lib.rs") text
      writeTold o (Path.join code "main.rs") (Manifest.programRoot none none)
    writeManifest o (Path.parent path)
      { name := o.name?.getD (moduleNameOf path), modules := some [m], isLibrary := !hasMain m,
        usesValues := usesValues text }
    saveLogTold o
    say s!"✓ Transpiled {path} to {o.output}"

/-! ## A directory -/

/-- Is the path one of a source file that is taken? Caches and hidden places are not. -/
def isSource (path : String) : Bool :=
  Text.endsWith (Path.name path) ".py" && !Text.contains path "__pycache__" &&
    !(Path.components path).any (Text.startsWith · ".")

def pathsBelow (t : Tree) (directory : String) : List String :=
  (t.below directory).map (Path.join directory)

def sourcesBelow (t : Tree) (directory : String) : List String :=
  NameSet.sorted ((pathsBelow t directory).filter isSource)

def checkSources (o : TranspileOptions) (paths : List String) : Shell Unit := do
  let outcomes ← paths.mapM fun path => do
    if o.verbose then say s!"Checking {path}..."
    match ← readSource path with
    | .ok _ =>
      say s!"OK: {path}"
      return true
    | .error message =>
      say s!"Error in {path}: {message}"
      return false
  let good := outcomes.count true
  let bad := outcomes.count false
  say s!"\nChecked {paths.length} file(s): {good} OK, {bad} error(s)"

/-- Read one source file among others: what cannot be taken over is told and left out. -/
def readNext (path : String) : Shell (Option (String × IR.Module)) := do
  match ← readSource path with
  | .ok m => return some (path, m)
  | .error message =>
    say s!"Error in {path}: {message}"
    return none

def readSources (o : TranspileOptions) (paths : List String) :
    Shell (List (String × IR.Module)) := do
  let read ← paths.mapM fun path => do
    if o.verbose then say s!"Processing {path}..."
    readNext path
  return read.filterMap id

def moduleFile (code path : String) : String :=
  let name := moduleNameOf path
  Path.join code (if name == "__init__" then "mod.rs" else s!"{name}.rs")

def writeModule (o : TranspileOptions) (code : String) (modules : List String)
    (path : String) (m : IR.Module) : Shell String := do
  let text ← checked o path (← rustOf m modules)
  writeTold o (moduleFile code path) text
  return text

def libraryText (names : List String) (modules : List IR.Module) : String :=
  let more := Manifest.serviceError modules
  Manifest.libraryRoot names ++ (if more == "" then "" else s!"\n\n{more}") ++ "\n"

/-- The names of the modules that the root of the library declares. -/
def declaredNames (read : List (String × IR.Module)) : List String :=
  (read.map fun pair => moduleNameOf pair.1).filter (· != "__init__")

def mainModule? (written : List (String × IR.Module)) : Option String :=
  (written.find? fun pair => hasMain pair.2).map fun pair => moduleNameOf pair.1

def projectName (o : TranspileOptions) (directory : String) : String :=
  o.name?.getD (Text.replaceAll (Path.name directory) "-" "_")

def onlyIf (taken : Bool) (x : Shell Unit) : Shell Unit :=
  if taken then x else pure ()

def finishProject (o : TranspileOptions) (directory code : String)
    (read written : List (String × IR.Module)) (texts : List String) : Shell Unit := do
  onlyIf (!(declaredNames read).isEmpty)
    (writeTold o (Path.join code "lib.rs") (libraryText (declaredNames read) (read.map (·.2))))
  writeTold o (Path.join code "main.rs")
    (Manifest.programRoot (mainModule? written) (some (projectName o directory)))
  writeManifest o directory
    { name := projectName o directory, modules := some (read.map (·.2)), isLibrary := true,
      usesValues := texts.any usesValues }
  saveLogTold o
  say s!"✓ Transpiled {(read.map (·.2)).length} file(s) to {o.output}"

/-- Write the modules that were read, in order, for the first of the source files, one for each
module. -/
def writeProject (o : TranspileOptions) (directory : String) (paths : List String) :
    Shell Unit := do
  let code ← makeProject o
  let read ← readSources o paths
  let written := paths.zip (read.map (·.2))
  let texts ← written.mapM fun (path, m) =>
    writeModule o code (NameSet.ofList (declaredNames read)) path m
  finishProject o directory code read written texts

def transpileDirectory (o : TranspileOptions) (directory : String) : Shell Unit := do
  onlyIf o.log (startLog "transpile" (Path.name directory))
  let t ← tree
  let paths := sourcesBelow t directory
  onlyIf paths.isEmpty (fail s!"No Python files found in {directory}")
  onlyIf o.verbose (say s!"Found {paths.length} Python file(s)")
  if o.check then checkSources o paths else writeProject o directory paths

def transpilePath (o : TranspileOptions) (path : String) : Shell Unit := do
  let t ← tree
  if t.isFile path then transpileFile o path
  else if t.isDirectory path then transpileDirectory o path
  else fail s!"Invalid input path: {path}"

end Oxidize.Command
