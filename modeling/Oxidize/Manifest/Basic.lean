import Oxidize.Emit.Module

/-!
# Manifests

The manifest of a project names it, lists its dependencies in order of their names, and says which
lints are silenced.

A dependency is written as a version, as a version with features, or entry by entry when a package
describes it with a table.
-/

namespace Oxidize

structure Dependency where
  name : String
  version : String
  features : List String := []
  isOptional : Bool := false
  /-- The entries of the dependency, which win over everything else. -/
  spec : Option (Table Value) := none

namespace Dependency

def quote (text : String) : String :=
  s!"\"{text}\""

def valueText : Value → String
  | .str s => quote s
  | .bool b => if b then "true" else "false"
  | v => v.display

def entryText : String × Value → String
  | (key, .list items) => s!"{key} = [{Text.commas (items.map valueText)}]"
  | (key, v) => s!"{key} = {valueText v}"

def inBraces (parts : List String) : String :=
  "\x7b " ++ Text.commas parts ++ " \x7d"

def demand (d : Dependency) : String :=
  match d.spec with
  | some entries => inBraces (entries.map entryText)
  | none =>
    if d.features.isEmpty && !d.isOptional then quote d.version
    else
      let features := Text.commas (d.features.map quote)
      inBraces ([s!"version = {quote d.version}"]
        ++ (if d.features.isEmpty then [] else [s!"features = [{features}]"])
        ++ (if d.isOptional then ["optional = true"] else []))

def line (d : Dependency) : String :=
  d.name ++ " = " ++ d.demand

/-- The dependency that a value of a package describes: a version, or a table of entries. -/
def ofSpec (name : String) : Value → Dependency
  | .table entries =>
    { name, version := ((Table.get? entries "version").map Value.display).getD ""
      spec := some entries }
  | v => { name, version := v.display }

/-- The dependency with further features, and without entries of its own. -/
def adding (d : Dependency) (features : List String) : Dependency :=
  { d with
    features := features.foldl (fun acc f => if acc.contains f then acc else acc ++ [f]) d.features
    spec := none }

end Dependency

structure Project where
  name : String
  version : String := "0.1.0"
  edition : String := "2021"
  modules : Option (List IR.Module) := none
  extra : List Dependency := []
  isLibrary : Bool := false
  usesValues : Bool := false
  /-- Does the project need the asynchronous runtime? If nothing is said, its functions tell. -/
  isAsync : Option Bool := none

namespace Manifest

def always : List Dependency :=
  [{ name := "thiserror", version := "1.0" }, { name := "anyhow", version := "1.0" }]

def forValues : List Dependency :=
  [{ name := "serde", version := "1.0", features := ["derive"] },
   { name := "serde_json", version := "1.0" }]

def forAsync : List Dependency :=
  [{ name := "tokio", version := "1", features := ["full"] }]

def forImport : Table (List Dependency) :=
  [("json", forValues),
   ("collections", [{ name := "indexmap", version := "2.0" }]),
   ("datetime", [{ name := "chrono", version := "0.4" }]),
   ("glob", [{ name := "glob", version := "0.3" }]),
   ("tempfile", [{ name := "tempfile", version := "3" }]),
   ("shutil", [{ name := "which", version := "6" }]),
   ("random",
    [{ name := "rand", version := "0.8" }, { name := "rand_distr", version := "0.4" }]),
   ("logging",
    [{ name := "log", version := "0.4" }, { name := "env_logger", version := "0.11" }])]

abbrev Dependencies := Table Dependency

def put (deps : Dependencies) (more : List Dependency) : Dependencies :=
  deps.update (more.map fun d => (d.name, d))

def putNew (deps : Dependencies) (specs : Table Value) : Dependencies :=
  specs.foldl (fun deps (name, spec) =>
    if deps.has name then deps else deps.set name (.ofSpec name spec)) deps

def importRoot (i : IR.Import) : String :=
  Text.before i.module "."

/-- The crates whose packages the modules import; `none` stands for all packages. -/
def importedCrates (r : Registry) (modules : Option (List IR.Module)) : Option (List String) :=
  modules.map fun ms => ms.flatMap fun m => m.imports.filterMap fun i =>
    ((r.crateOfModule? (importRoot i)).filter Value.isSet).bind fun name => name.keyText.toOption

/-- The attributes of functions and classes, without those of methods. -/
def itemAttributes (m : IR.Module) : List String :=
  m.functions.flatMap (·.attributes) ++ m.classes.flatMap (·.attributes)

def isRoute (line : String) : Bool :=
  Emit.requestMethods.any fun method => Text.startsWith line s!"#[{method}("

def storeNames (modules : List IR.Module) : List String :=
  modules.flatMap fun m => m.imports.flatMap fun i =>
    if i.module == "spicycrab_redis" then i.names.map Prod.fst else []

def isAsyncStore (name : String) : Bool :=
  Text.contains name "ConnectionManager" || Text.contains (Text.lowerAscii name) "aio"

def adjust (deps : Dependencies) (name : String) (f : Dependency → Dependency) : Dependencies :=
  match deps.get? name with
  | some d => deps.set name (f d)
  | none => deps

/-- The dependencies with what attributes and imported names of the modules need. -/
def withAttributes (deps : Dependencies) (modules : List IR.Module) : Dependencies :=
  let traits := (modules.flatMap itemAttributes).flatMap Emit.derivedTraits
  let routes := (modules.flatMap Emit.moduleAttributes).any isRoute
  let deps :=
    if traits.contains "Serialize" || traits.contains "Deserialize" then
      put deps [{ name := "serde", version := "1", features := ["derive"] }]
    else deps
  let deps :=
    if routes && !deps.has "actix-web" then put deps [{ name := "actix-web", version := "4" }]
    else deps
  let deps :=
    if traits.contains "Parser" then adjust deps "clap" (·.adding ["derive"]) else deps
  if (storeNames modules).any isAsyncStore then
    adjust deps "redis" (·.adding ["aio", "connection-manager", "tokio-comp"])
  else deps

def definesAsync (modules : List IR.Module) : Bool :=
  modules.any fun m => m.functions.any (·.isAsync)

def given (p : Project) : List Dependency :=
  let modules := p.modules.getD []
  let imported := modules.flatMap fun m => m.imports.flatMap fun i =>
    (forImport.get? (importRoot i)).getD []
  always ++ imported ++ (if p.usesValues then forValues else [])
    ++ (if p.isAsync.getD (definesAsync modules) then forAsync else []) ++ p.extra

def dependencies (r : Registry) (asked : Value) (p : Project) :
    Except ValueFault Dependencies := do
  let crates := importedCrates r p.modules
  let deps := putNew (put [] (given p)) (← r.dependenciesWith asked crates)
  let deps := putNew deps (← r.dependencies crates)
  return withAttributes deps (p.modules.getD [])

/-- The name of the binary: the project's, unless names were imported from the package of the data
store, of which the last one counts. -/
def binaryName (p : Project) : String :=
  ((storeNames (p.modules.getD [])).getLast?).getD p.name

def header (p : Project) : List String :=
  ["[package]", s!"name = \"{p.name}\"", s!"version = \"{p.version}\"",
   s!"edition = \"{p.edition}\"", ""]

def footer (p : Project) : List String :=
  (if p.isLibrary then []
    else ["[[bin]]", s!"name = \"{binaryName p}\"", "path = \"src/main.rs\"", ""])
  ++ ["[lints.rust]", "unused_must_use = \"allow\"", "", "[lints.clippy]",
      "unnecessary_cast = \"allow\"", "unnecessary_to_owned = \"allow\"",
      "format_in_format_args = \"allow\"", ""]

def render (r : Registry) (asked : Value) (p : Project) : Except ValueFault String := do
  let deps ← dependencies r asked p
  let sorted := deps.values.mergeSort fun a b => decide (a.name ≤ b.name)
  return Text.join "\n"
    (header p ++ "[dependencies]" :: sorted.map Dependency.line ++ "" :: footer p)

/-! ## Root files -/

def libraryRoot (modules : List String) : String :=
  Text.join "\n" ((NameSet.sorted modules).map fun name => s!"pub mod {name};")

def mainFunction (line : String) : List String :=
  ["fn main() \x7b", s!"    {line}", "\x7d"]

/-- The root of a program, for an entry module of a library crate or of the program itself. -/
def programRoot (entry crate : Option String) : String :=
  Text.join "\n" <|
    match entry.filter (· != ""), crate.filter (· != "") with
    | some entry, some crate => mainFunction s!"{crate}::{entry}::main();"
    | some entry, none => [s!"mod {entry};", ""] ++ mainFunction s!"{entry}::main();"
    | none, _ => mainFunction "println!(\"Hello from spicycrab!\");"

def servesRequests (modules : List IR.Module) : Bool :=
  modules.any fun m => m.imports.any fun i =>
    Text.contains i.module "actix_web" || Text.contains i.module "actix-web"

def serviceErrorLines : List String :=
  ["use std::fmt;",
   "",
   "/// Wrapper type for errors to implement ResponseError for actix-web.",
   "/// This works around Rust's orphan rule (can't impl ResponseError for anyhow::Error).",
   "#[derive(Debug)]",
   "pub struct AppError(pub anyhow::Error);",
   "",
   "impl fmt::Display for AppError \x7b",
   "    fn fmt(&self, f: &mut fmt::Formatter<'_>) -> fmt::Result \x7b",
   "        write!(f, \"\x7b\x7d\", self.0)",
   "    \x7d",
   "\x7d",
   "",
   "impl actix_web::ResponseError for AppError \x7b",
   "    fn status_code(&self) -> actix_web::http::StatusCode \x7b",
   "        actix_web::http::StatusCode::INTERNAL_SERVER_ERROR",
   "    \x7d",
   "\x7d",
   "",
   "impl From<anyhow::Error> for AppError \x7b",
   "    fn from(err: anyhow::Error) -> Self \x7b",
   "        AppError(err)",
   "    \x7d",
   "\x7d"]

def serviceError (modules : List IR.Module) : String :=
  if servesRequests modules then Text.join "\n" serviceErrorLines else ""

end Manifest

end Oxidize
