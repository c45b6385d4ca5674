import Oxidize.Command.Session
import Oxidize.Stub.Name

/-!
# Validating, building and installing stub packages

The project file has to name the package in the way of stub packages, and the mapping file has to
describe the package and to give each entry what it needs. A wheel is built by another program, and
so is it installed.
-/

namespace Oxidize.Stub

/-! ## Validating -/

structure Findings where
  passed : List String := []
  warnings : List String := []
  errors : List String := []

abbrev Checking (α : Type) := ExceptT ValueFault (StateM Findings) α

namespace Checking

def pass (text : String) : Checking Unit :=
  modify fun f => { f with passed := f.passed ++ [text] }

def warn (text : String) : Checking Unit :=
  modify fun f => { f with warnings := f.warnings ++ [text] }

def report (text : String) : Checking Unit :=
  modify fun f => { f with errors := f.errors ++ [text] }

/-- Run the checks on a file. A value that cannot be looked into is an error of the file. -/
def findings (file : String) (check : Checking Unit) : Findings :=
  match (check.run).run {} with
  | (.ok (), found) => found
  | (.error fault, found) =>
    let text := fault.text
    { found with errors := found.errors ++ [s!"Invalid {file}: {text}"] }

end Checking

open Checking

def projectEntry (config : Value) (key : String) (default : Value) : Except ValueFault Value := do
  (← config.entryOr "project" (.table [])).entryOr key default

def checkProject (config : Value) : Checking Unit := do
  match ← projectEntry config "name" (.str "") with
  | .str name =>
    if !Text.startsWith name "spicycrab-" then
      warn s!"Package name '{name}' should start with 'spicycrab-'"
  | other => throw (.noOperation other.form "startswith")

def requiredFields : List String :=
  ["name", "rust_crate", "rust_version", "python_module"]

def checkField (package : Value) (field : String) : Checking Unit := do
  if ← package.holds field then
    let text := (← package.atKey field).display
    pass s!"package.{field} = {text}"
  else report s!"Missing required field: package.{field}"

def checkEntry (kind : String) (index : Nat) (fields : List String) (entry : Value) :
    Checking Unit :=
  fields.forM fun field => do
    if !(← entry.holds field) then report s!"{kind} mapping {index} missing '{field}' field"

def checkEntries (kind : String) (fields : List String) (entries : Value) : Checking Unit :=
  entries.parts.zipIdx.forM fun (entry, index) => checkEntry kind index fields entry

def checkMappings (config : Value) : Checking Unit := do
  let package ← config.entryOr "package" (.table [])
  requiredFields.forM (checkField package)
  let mappings ← config.entryOr "mappings" (.table [])
  let functions ← mappings.entryOr "functions" (.list [])
  let methods ← mappings.entryOr "methods" (.list [])
  let types ← mappings.entryOr "types" (.list [])
  let count ← functions.size
  pass s!"{count} function mapping(s)"
  let count ← methods.size
  pass s!"{count} method mapping(s)"
  let count ← types.size
  pass s!"{count} type mapping(s)"
  checkEntries "Function" ["python", "rust_code"] functions
  checkEntries "Method" ["python", "rust_code"] methods
  checkEntries "Type" ["python", "rust"] types

end Oxidize.Stub

namespace Oxidize.Command

open Stub (Findings)

/-- The content of a configuration. An empty file is an empty configuration. -/
def contentOf (path : String) (file : File) : Except String Value :=
  match file.content? with
  | some content => .ok content
  | none =>
    if file.text == "" then .ok (.table []) else .error s!"{path} is not a valid configuration"

def readConfiguration (t : Tree) (path : String) : Except String Value := do
  let file ← (t.read path).mapError FileFault.text
  contentOf path file

def checkFile (t : Tree) (path name : String) (check : Value → Stub.Checking Unit) : Findings :=
  match readConfiguration t path with
  | .ok config => (check config |> Stub.Checking.findings name)
  | .error text => { errors := [s!"Invalid {name}: {text}"] }

def passedLine (text : String) : String :=
  s!"  [OK] {text}"

def noted (found : Findings) (more : Findings) : Shell Findings := do
  sayAll (more.passed.map passedLine)
  return { warnings := found.warnings ++ more.warnings, errors := found.errors ++ more.errors }

def missingFile (name : String) : Findings :=
  { errors := [s!"Missing {name}"] }

def validatePackage (directory name : String) (found : Findings) : Shell Findings := do
  let t ← tree
  say (passedLine s!"Package directory found: {name}")
  let found ←
    if t.has (Path.join directory "__init__.py") then
      noted found { passed := ["__init__.py found"] }
    else noted found (missingFile s!"{name}/__init__.py")
  let path := Path.join directory "_spicycrab.toml"
  if t.has path then
    say (passedLine "_spicycrab.toml found")
    noted found (checkFile t path "_spicycrab.toml" Stub.checkMappings)
  else noted found (missingFile s!"{name}/_spicycrab.toml")

def packagesDirectory (t : Tree) (path : String) : Shell String := do
  let inner := Path.join path "src"
  if t.isFile inner then throw (.fault (.file (.notDirectory inner)))
  else if t.isDirectory inner then return inner
  else return path

def validate (path : String) : Shell Unit := do
  let t ← tree
  say s!"Validating stub package at: {path}"
  let project := Path.join path "pyproject.toml"
  let found ←
    if t.has project then do
      say (passedLine "pyproject.toml found")
      noted {} (checkFile t project "pyproject.toml" Stub.checkProject)
    else pure (missingFile "pyproject.toml")
  let directory ← packagesDirectory t path
  let packages := (t.names directory).filter fun name =>
    Text.startsWith name "spicycrab_" && t.isDirectory (Path.join directory name)
  let found ← match packages with
    | [] => noted found { errors := ["No spicycrab_* package directory found"] }
    | name :: _ => validatePackage (Path.join directory name) name found
  say ""
  if !found.warnings.isEmpty then
    sayAll ("Warnings:" :: found.warnings.map fun text => s!"  - {text}")
  if found.errors.isEmpty then say "Validation PASSED"
  else
    sayAll ("Errors:" :: found.errors.map fun text => s!"  - {text}")
    sayAll ["", "Validation FAILED"]
    quit 1

/-! ## Building and installing -/

def stubRepository : String :=
  "https://github.com/kushaldas/spicycrab-stubs.git"

def browsable (repository : String) : String :=
  Text.replaceAll repository ".git" ""

def interpreter : String := "PYTHON"

def buildCommand (path output : String) : Shell (List String) := do
  if ← hasUv then return ["uv", "build", "--wheel", "--out-dir", output, path]
  else return [interpreter, "-m", "build", "--wheel", "--outdir", output, path]

def installCommand : Shell (List String) := do
  if ← hasUv then return ["uv", "pip", "install", "--python", interpreter]
  else return [interpreter, "-m", "pip", "install"]

def failureText (command : List String) (code : Int) : String :=
  let words := (Value.ofTexts command).literal
  s!"Command '{words}' returned non-zero exit status {code}."

/-! ## Building -/

def reportBuildFailure (stderr? : Option String) : Shell Unit := do
  sayAll [stderr?.getD "", "", "Build failed"]
  if Text.contains (stderr?.getD "") "No module named build" then
    say ""
    let tool := if ← hasUv then "uv pip" else "pip"
    sayAll ["Install the build module with:", s!"  {tool} install build"]

def reportWheel (name : Value) (output : String) : Shell Unit := do
  match name with
  | .str name =>
    let stem := Text.replaceAll name "-" "_"
    match (← searchFor output s!"{stem}-*.whl").getLast? with
    | some wheel =>
      let file := Path.name wheel
      sayAll ["", s!"Successfully built: {file}", s!"  Location: {wheel}"]
    | none => say "Build completed but wheel not found"
  | other => throw (.fault (.value (.noOperation other.form "replace")))

def packageIdentity (t : Tree) (project : String) : Except String (Value × Value) := do
  let config ← readConfiguration t project
  let entry (key default : String) : Except String Value :=
    (Stub.projectEntry config key (.str default)).mapError ValueFault.text
  return (← entry "name" "unknown", ← entry "version" "0.0.0")

def build (path : String) (output? : Option String) : Shell Unit := do
  let output := output?.getD (Path.join path "dist")
  say s!"Building wheel for stub package at: {path}"
  let project := Path.join path "pyproject.toml"
  if !(← tree).has project then
    say "Error: Missing pyproject.toml"
    quit 1
  match packageIdentity (← tree) project with
  | .error text =>
    say s!"Error reading pyproject.toml: {text}"
    quit 1
  | .ok (name, version) =>
    let shown := name.display
    let shownVersion := version.display
    sayAll [s!"  Package: {shown}", s!"  Version: {shownVersion}", s!"  Output: {output}"]
    makeDirectory output
    let command ← buildCommand path output
    sayAll ["", "Building wheel..."]
    let finished ← call command
    if finished.code == 0 then
      say finished.stdout
      reportWheel name output
    else
      reportBuildFailure finished.stderr?
      quit 1

/-! ## Installing -/

/-- Fetch one directory of a repository into a temporary directory, at a tag if one is given. Gives
the directory, or nothing if a step fails. -/
def fetchDirectory (repository directory : String) (tag? : Option String) :
    Shell (Option String) := do
  let place ← temporaryDirectory
  let branch := (tag?.map fun tag => ["--branch", tag]).getD []
  let cloned ← call (["git", "clone", "--depth", "1", "--filter=blob:none", "--sparse"] ++ branch ++
    [repository, place])
  if cloned.code != 0 then return none
  let restricted ← call ["git", "-C", place, "sparse-checkout", "set", directory]
  if restricted.code != 0 then return none
  return some (Path.join place directory)

def reportNotFetched (crate repository : String) (tag? : Option String) : Shell Unit :=
  sayAll ["Failed to fetch stub package",
    match tag? with
    | some tag => s!"  Tag '{tag}' may not exist. Try without -v flag for latest."
    | none => s!"  Stub 'stubs/{crate}' may not exist in the repository.",
    "",
    "Available stubs can be found at:",
    "  " ++ browsable repository]

def callForInstall (command : List String) : Shell Bool := do
  let finished ← call command
  if finished.code == 0 then return true
  else
    sayAll [(finished.stderr?.filter (· != "")).getD (failureText command finished.code),
      "Installation failed"]
    return false

/-- Build the package at `path` in the directory `wheels` and install it. Did it succeed? -/
def installFrom (crate path wheels : String) : Shell Bool := do
  if !(← callForInstall (← buildCommand path wheels)) then return false
  match ← searchFor wheels "*.whl" with
  | [] =>
    say "Failed to build wheel"
    return false
  | wheel :: _ =>
    let file := Path.name wheel
    sayAll [s!"  Built: {file}", "Installing..."]
    if !(← callForInstall ((← installCommand) ++ ["--force-reinstall", wheel])) then return false
    let module := Stub.moduleName crate
    sayAll ["", s!"Successfully installed spicycrab-{crate}", "",
      "The stub package is now available for spicycrab transpilation.",
      s!"  Import: from {module} import ..."]
    return true

def install (package : String) (version? : Option String) (repository : String) : Shell Unit := do
  let crate := Text.replaceAll package "spicycrab-" ""
  let tag? := version?.map fun version => s!"{crate}-{version}"
  let tool := if ← hasUv then "uv pip" else "pip"
  sayAll ([s!"Installing spicycrab-{crate} from spicycrab-stubs...",
    s!"  Repository: {repository}", s!"  Package manager: {tool}"] ++
    (tag?.toList.map fun tag => s!"  Tag: {tag}") ++ ["", "Fetching stub package..."])
  match ← fetchDirectory repository s!"stubs/{crate}" tag? with
  | none =>
    reportNotFetched crate repository tag?
    quit 1
  | some path =>
    if !(← tree).has path then
      say s!"Stub '{crate}' not found in repository"
      quit 1
    say "Building wheel..."
    let wheels ← temporaryDirectory
    let isDone ← installFrom crate path wheels
    change fun t => (t.removeDirectory (Path.parent path)).removeDirectory wheels
    if !isDone then quit 1

def search (query : String) : Shell Unit :=
  sayAll [s!"Searching for '{query}'...", "", "Browse available stubs at:",
    "  " ++ browsable stubRepository, "", "Available stubs:",
    "  - clap       (CLI argument parser)", "", "To install a stub:",
    "  cookcrab install <crate_name>", "  cookcrab install <crate_name> -v <version>"]

end Oxidize.Command
