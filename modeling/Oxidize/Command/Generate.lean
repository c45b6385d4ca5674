import Oxidize.Command.Session
import Oxidize.Stub.Package

/-!
# Generating stub packages

The interface of a crate is read from a local directory, or from the registry of crates, where its
description is fetched first and then its archive.
-/

namespace Oxidize.Command

open Interface (Crate)

structure GenerateOptions where
  output : String
  version? : Option String := none
  isLocal : Bool := false
  log : Bool := false

/-! ## Crates from the registry -/

def tried {α : Type} (steps : Shell α) : Shell (Except Stop α) :=
  ExceptT.lift steps.run

def agent : String :=
  "cookcrab/0.1.2 (https://github.com/kushaldas/spicycrab)"

def descriptionIn (text : String) : Shell Value := do
  match Json.read text with
  | .error failure =>
    if failure.fault.isLimit then throw (.fault (.limit failure.fault))
    else fail s!"Invalid response from crates.io: {failure.message}"
  | .ok data =>
    match data.atKey "crate" with
    | .error (.missingKey key) =>
      let fault := (ValueFault.missingKey key).text
      fail s!"Invalid response from crates.io: {fault}"
    | found => orFault .value found

def describe (crate : String) : Shell Value := do
  let reply ← fetch
    { url := s!"https://crates.io/api/v1/crates/{crate}", agent, timeout := 30 }
  match reply with
  | .body text => descriptionIn text
  | .archive _ => throw (.fault .notText)
  | .status code =>
    if code == 404 then fail s!"Crate '{crate}' not found on crates.io"
    else fail s!"Failed to fetch crate info: HTTP {code}"
  | .unreachable reason => fail s!"Network error fetching crate info: {reason}"

def latestVersion (description : Value) : Except ValueFault String := do
  let stable ← description.entryOr "max_stable_version" .null
  if stable.isSet then return stable.display
  else return (← description.entryOr "max_version" (.str "0.1.0")).display

def unpackedDirectory (t : Tree) (place name : String) : Option String :=
  let expected := Path.join place name
  if t.has expected then some expected
  else ((t.names place).map (Path.join place)).find? t.isDirectory

/-- Fetch the archive of a crate and unpack it in the directory `place`. -/
def download (crate version place : String) : Shell String := do
  let name := s!"{crate}-{version}"
  let archive := Path.join place s!"{name}.crate"
  let reply ← fetch
    { url := s!"https://static.crates.io/crates/{crate}/{name}.crate", agent, timeout := 60 }
  match reply with
  | .status code =>
    if code == 404 then
      fail s!"Crate '{crate}' version '{version}' not found on crates.io"
    else fail s!"Failed to download crate: HTTP {code}"
  | .unreachable reason => fail s!"Network error downloading crate: {reason}"
  | .body text =>
    write archive text
    fail "Failed to extract crate: not a gzip file"
  | .archive files =>
    write archive ""
    attempt (Archive.unpack place files)
    change (·.remove archive)
    match unpackedDirectory (← get).files place name with
    | some directory => return directory
    | none => fail "Failed to find extracted crate directory"

/-! ## Writing packages -/

def crateName (name : Value) : Shell String :=
  match name with
  | .str name => return name
  | other => throw (.fault (.value (.noOperation other.form "replace")))

def generatePackage (output : String) (crate : Crate) (name : Value) (version : String) :
    Shell Unit := do
  let name ← crateName name
  let registry := (← get).registry
  let (files, log) := (Stub.package output { crate, name, version }).run registry.log
  modify fun s => { s with registry := { registry with log } }
  attempt (Stub.writePackage output name files)

def generateReexport (output : String) (name : Value) (version : String) (sources : List String) :
    Shell Unit := do
  let name ← crateName name
  attempt (Stub.writeReexport output name version sources)

/-! ## Source crates -/

def generateSource (output source : String) : Shell Unit := do
  let description ← describe source
  let version ← orFault .value (latestVersion description)
  say s!"  Version: {version}"
  let place ← temporaryDirectory
  let directory ← download source version place
  match ← readCrate directory with
  | .error message => fail message
  | .ok crate =>
    sayAll [s!"  Found {crate.structs.length} struct(s)",
      s!"  Found {crate.impls.length} impl block(s)"]
    generatePackage output crate (.str source) version
    let package := Path.join output source
    say s!"  Generated: {package}"
    change (·.removeDirectory place)

/-- Generate the stub packages of the crates that are handed on. One that fails is reported. -/
def generateSources (o : GenerateOptions) (sources : List String) : Shell Unit :=
  sources.forM fun source => do
    if !o.isLocal then
      say s!"Generating stubs for source crate: {source}..."
      match ← tried (generateSource o.output source) with
      | .ok () => pure ()
      | .error stop =>
        let text := stop.text
        say s!"  Warning: Could not generate {source}: {text}"
    say ""

/-! ## The command -/

structure Found where
  name : Value
  version : String
  directory : String
  temporary? : Option String := none

def discard (temporary? : Option String) : Shell Unit :=
  change fun t => (temporary?.map t.removeDirectory).getD t

def findLocal (o : GenerateOptions) (crate : String) : Shell Found := do
  let directory := Path.normal crate
  if !(← tree).has directory then
    say s!"Error: Path not found: {crate}"
    quit 1
  let version := o.version?.getD "0.1.0"
  sayAll [s!"Generating stubs from local crate at: {directory}",
    s!"  Output directory: {o.output}", s!"  Version: {version}", ""]
  return { name := .str crate, version, directory }

def findRemote (o : GenerateOptions) (crate : String) : Shell Found := do
  say "Fetching crate info from crates.io..."
  let description ← describe crate
  let name ← orFault .value (description.entryOr "id" (.str crate))
  let version ← match o.version? with
    | some version =>
      say s!"  Requested version: {version}"
      pure version
    | none =>
      let version ← orFault .value (latestVersion description)
      say s!"  Latest version: {version}"
      pure version
  let about := (← orFault .value (description.entryOr "description" (.str "N/A"))).display
  let shown := name.display
  sayAll [s!"  Description: {about}", "", s!"Downloading {shown} v{version}..."]
  let place ← temporaryDirectory
  match ← tried (download shown version place) with
  | .error stop =>
    if stop matches .refused _ then discard (some place)
    throw stop
  | .ok directory =>
    sayAll [s!"  Extracted to: {directory}", s!"  Output directory: {o.output}", ""]
    return { name, version, directory, temporary? := some place }

def handedOn (crate : Crate) : List String :=
  if crate.structs.length + crate.enums.length + crate.impls.length < 5 then
    (crate.reexports.filter (·.isGlob)).map (·.sourceCrate)
  else []

def contentLines (crate : Crate) (name : String) : List String :=
  [s!"  Crate name: {name}",
   s!"  Found {crate.structs.length} struct(s)",
   s!"  Found {crate.enums.length} enum(s)",
   s!"  Found {crate.functions.length} function(s)",
   s!"  Found {crate.impls.length} impl block(s)",
   s!"  Found {crate.aliases.length} type alias(es)",
   s!"  Found {crate.reexports.length} re-export(s)"]

def handedOnLines (sources : List String) : List String :=
  if sources.isEmpty then []
  else ["", "Detected re-exports from other crates:"] ++
    (sources.map fun source => s!"  pub use {source}::*") ++
    ["", "This crate re-exports from other crates. Will generate stubs for source crates."]

def closingLines (package name version : String) : List String :=
  ["",
   "Stub package generated successfully!",
   "",
   s!"Output directory: {package}",
   "",
   "Next steps:",
   "  1. Review and edit the generated stubs",
   s!"  2. Validate: cookcrab validate {package}",
   s!"  3. Build: cookcrab build {package}",
   "",
   "To contribute to spicycrab-stubs:",
   s!"  1. Copy {package} to stubs/ in your spicycrab-stubs clone",
   s!"  2. Run: just tag {name} {version}",
   s!"  3. Push: git push origin main && git push origin {name}-{version}"]

def generate (o : GenerateOptions) (crate : String) : Shell Unit := do
  if (← get).crates?.isNone then
    sayAll ["Error: Rust parser not available.", "",
      "The parser should be built when installing cookcrab.",
      "Try reinstalling with: uv pip install cookcrab"]
    quit 1
  if o.log then startLog "stubs" crate
  let found ← if o.isLocal then findLocal o crate else findRemote o crate
  say "Parsing Rust crate..."
  match ← readCrate found.directory with
  | .error message =>
    discard found.temporary?
    say s!"Error parsing crate: {message}"
    quit 1
  | .ok interface =>
    let name := if o.isLocal then .str interface.name else found.name
    let sources := handedOn interface
    sayAll (contentLines interface name.display ++ handedOnLines sources ++ [""])
    generateSources o sources
    say "Generating stub package..."
    let generated ← tried <|
      if sources.isEmpty then generatePackage o.output interface name found.version
      else generateReexport o.output name found.version sources
    discard found.temporary?
    match generated with
    | .error stop =>
      let text := stop.text
      say s!"Error generating stubs: {text}"
      quit 1
    | .ok () =>
      if o.log then
        match ← saveLog o.output with
        | some path => say s!"  Debug log: {path}"
        | none => pure ()
      sayAll (closingLines (Path.join o.output name.display) name.display found.version)

end Oxidize.Command
