import Oxidize.Files.Tree
import Oxidize.Stub.Mappings

/-!
# Stub packages

A stub package is a directory with a project file, a read-me and a Python package that holds the
stub module and the mapping file. The stubs declare the types, functions and constants of a crate
for type checkers and editors.

A crate that only hands on what other crates declare has stubs that import theirs.
-/

namespace Oxidize.Stub

/-! ## The stub module -/

open Interface (Crate Callable TypeDecl Alias VariantAlias)

def docString (doc : String) : String :=
  let doc := docText doc
  s!"\"\"\"{doc}\"\"\""

/-- The class that stands for an alias of the standard `Result`. -/
def resultClass (crate name target : String) : List String :=
  let ident := crateIdent crate
  ["",
   "T = TypeVar('T')",
   "E = TypeVar('E')",
   "",
   "",
   "class " ++ name ++ "(Generic[T, E]):",
   s!"    \"\"\"A Result type alias for {crate}.",
   "",
   s!"    Maps to {ident}::{name} which is an alias for {target}.",
   "    \"\"\"",
   "",
   "    @staticmethod",
   s!"    def Ok(value: T) -> \"{name}[T, E]\":",
   "        \"\"\"Create a successful result.\"\"\"",
   "        ...",
   "",
   "    @staticmethod",
   s!"    def Err(error: E) -> \"{name}[T, E]\":",
   "        \"\"\"Create an error result.\"\"\"",
   "        ..."]

def headLines (s : Subject) : List String :=
  let names := Text.commas
    ("Self" :: if (resultAliases s.crate).isEmpty then [] else ["TypeVar", "Generic"])
  [s!"\"\"\"Python stubs for the {s.name} Rust crate.",
   "",
   s!"Install with: cookcrab install {s.name}",
   "\"\"\"",
   "",
   "from __future__ import annotations",
   "",
   s!"from typing import {names}"]

def classLines (t : TypeDecl) : List String :=
  ["", s!"class {t.name}:"] ++ t.doc?.toList.map fun doc => "    " ++ docString doc

def methodLines (type : String) (m : Callable) : List String :=
  if m.isStatic then ["", "    @staticmethod", "    " ++ staticDeclaration type m]
  else ["", "    " ++ methodDeclaration m]

def methodsLines (c : Crate) (t : TypeDecl) : List String :=
  (c.methodsOf t.name).flatMap (methodLines t.name)

def structLines (c : Crate) (t : TypeDecl) : List String :=
  let methods := methodsLines c t
  classLines t ++ if methods.isEmpty then ["    pass"] else methods

def enumLines (c : Crate) (t : TypeDecl) : List String :=
  classLines t ++
    (t.variants.map fun variant =>
      let name := safeName variant
      s!"    {name}: \"{t.name}\"") ++
    methodsLines c t

def functionLines (f : Callable) : List String :=
  [""] ++ f.doc?.toList.map docString ++ [functionDeclaration f]

/-- The names that the module offers: functions, types and constants. Of aliases for results the
last comes first. -/
def offeredNames (s : Subject) : List String :=
  let c := s.crate
  c.publicFunctions.map (safeName ·.name) ++
    s.known.functions.map (·.name) ++
    s.known.types.map (·.name) ++
    ((resultAliases c).map (·.name)).reverse ++
    c.structs.map (·.name) ++ c.enums.map (·.name) ++
    c.variantAliases.map (safeName ·.name) ++
    s.known.constants.map (·.name)

def offerLines (s : Subject) : List String :=
  let names := Text.commas ((offeredNames s).map Quoting.plain.write)
  ["", s!"__all__: list[str] = [{names}]", ""]

/-- Lines of the module, with the name that they define if they define one. -/
abbrev Part := Option String × List String

def named {α : Type} (name : α → String) (lines : α → List String) (items : List α) : List Part :=
  items.map fun a => (some (name a), lines a)

/-- The parts under a title, which is left out if there are none. -/
def titled (text : String) (parts : List Part) : List Part :=
  let rule := "# ===================================================="
  if parts.isEmpty then [] else (none, ["", rule, s!"# {text}", rule, ""]) :: parts

/-- What is known beforehand: types, functions, macros, and types that the interface does not
show. -/
def knownParts (k : KnownCrate) : List Part :=
  named (·.name) (·.stub) k.types ++ named (·.name) (·.stub) (k.functions ++ k.macros) ++
    named (·.name) (·.stub) k.extraTypes

def parts (s : Subject) : List Part :=
  let c := s.crate
  (none, headLines s) ::
    named (·.name) (fun a => resultClass s.name a.name a.target) (resultAliases c) ++
    knownParts s.known ++
    named (·.name) (structLines c) c.structs ++
    named (·.name) (enumLines c) c.enums ++
    named (safeName ·.name) functionLines c.publicFunctions ++
    titled "Algorithm/Variant Constants - convenient top-level exports"
      (named (safeName ·.name) (fun a => [safeName a.name ++ ": " ++ a.enumType]) c.variantAliases) ++
    titled "Module-level Constants"
      (named (·.name) (fun k => [k.name ++ ": " ++ k.type ++ " = ..."]) s.known.constants) ++
    [(none, offerLines s)]

def declarations (s : Subject) : String :=
  Text.join "\n" ((parts s).flatMap Prod.snd)

end Oxidize.Stub

/-! ## The package -/

namespace Oxidize.Stub.Reexport

def declarations (crate : String) (sources : List String) : String :=
  let names := Text.commas sources
  Text.join "\n" <|
    [s!"\"\"\"Python stubs for the {crate} Rust crate.",
     "",
     s!"This crate re-exports from: {names}",
     "\"\"\"",
     "",
     "from __future__ import annotations",
     ""] ++
    (sources.map fun source =>
      let module := moduleName source
      s!"from {module} import *  # noqa: F401, F403") ++
    [""]

def opensEntry (line : String) : Bool :=
  Text.startsWith line "[[mappings."

def opensPart (line : String) : Bool :=
  Text.startsWith line "[" && !Text.startsWith line "[["

/-- The blocks of the entries of a mapping file. An entry ends before the next one, before another
part of the file, or with it. `current?` is the block that is open. -/
def blocks (current? : Option (List String)) : List String → List (List String)
  | [] => current?.toList
  | line :: rest =>
    if opensEntry line then current?.toList ++ blocks (some [line]) rest
    else
      match current? with
      | some block =>
        if opensPart line then block :: blocks none rest
        else blocks (some (block ++ [line])) rest
      | none => blocks none rest

def renameLine (source target line : String) : String :=
  if Text.startsWith line "python = " then
    Text.replaceAll line s!"\"{source}." s!"\"{target}."
  else if Text.startsWith line "rust_code = " then
    Text.replaceAll line s!"{source}::" s!"{target}::"
  else if Text.startsWith line "rust_imports = " || Text.startsWith line "rust = " then
    Text.replaceAll line s!"\"{source}::" s!"\"{target}::"
  else line

def renameBlock (source target : String) (block : List String) : List String :=
  block.map (renameLine source target)

def takenOver (source target text : String) : List String :=
  (blocks none (Text.splitOn text "\n")).flatMap fun block =>
    renameBlock source target block ++ [""]

/-- The text of the mapping file. `texts` holds the mapping files of the source crates, with
nothing for a crate that has none. -/
def mappingFile (crate version : String) (texts : Table (Option String)) : String :=
  let names := Text.commas (texts.map (·.1))
  Text.join "\n" <|
    packageLines crate crate version ++
    ["# This crate re-exports from other crates", s!"# Source crates: {names}", ""] ++
    dependencyLines crate version ++
    texts.flatMap fun (source, text?) => (text?.map (takenOver source crate)).getD []

end Oxidize.Stub.Reexport

namespace Oxidize.Stub

abbrev TextFile := String × String

def projectFile (crate version module about : String) (dependencies : List String) : String :=
  let dependencies := Entry.texts dependencies
  Text.join "\n"
    ["[build-system]",
     "requires = [\"hatchling\"]",
     "build-backend = \"hatchling.build\"",
     "",
     "[project]",
     s!"name = \"spicycrab-{crate}\"",
     s!"version = \"{version}\"",
     s!"description = \"spicycrab type stubs for the {crate} Rust crate{about}\"",
     "requires-python = \">=3.11\"",
     s!"dependencies = {dependencies}",
     "",
     "[project.entry-points.\"spicycrab.stubs\"]",
     s!"{crate} = \"{module}\"",
     "",
     "[tool.hatch.build.targets.wheel]",
     s!"packages = [\"{module}\"]",
     ""]

def packageName (crate : String) : String :=
  s!"spicycrab-{crate}"

def reexportProjectFile (crate : String) (sources : List String) (version module : String) :
    String :=
  let names := Text.commas sources
  projectFile crate version module s!" (re-exports from {names})" (sources.map packageName)

def readMe (crate : String) (about : List String) (use : String) (more : List String) : String :=
  let package := packageName crate
  Text.join "\n" <|
    [s!"# {package}",
     "",
     s!"Python type stubs for the [{crate}](https://crates.io/crates/{crate}) Rust crate.",
     ""] ++ about ++
    ["**Install with cookcrab, NOT pip:**",
     "",
     "```bash",
     s!"cookcrab install {crate}",
     "```",
     "",
     "## Usage",
     "",
     "```python",
     use,
     "```"] ++ more ++ [""]

def packageDirectory (output crate : String) : String :=
  Path.join (Path.join output crate) (moduleName crate)

def mappingPath (output crate : String) : String :=
  Path.join (packageDirectory output crate) "_spicycrab.toml"

def packageFiles (output crate project stubs mappings readMe : String) : List TextFile :=
  let directory := Path.join output crate
  [(Path.join directory "pyproject.toml", project),
   (Path.join (packageDirectory output crate) "__init__.py", stubs),
   (mappingPath output crate, mappings),
   (Path.join directory "README.md", readMe)]

def package (output : String) (s : Subject) : Noting (List TextFile) := do
  let module := moduleName s.name
  let mappings ← mappingFile s
  return packageFiles output s.name (projectFile s.name s.version module "" []) (declarations s)
    mappings (readMe s.name [] s!"from {module} import ..." [])

/-- The stub package of a crate that hands on others, which are given with the texts of their
mapping files. -/
def reexportPackage (output crate version : String) (texts : Table (Option String)) :
    List TextFile :=
  let module := moduleName crate
  let sources := texts.map (·.1)
  let names := Text.commas sources
  let dependencies := sources.map fun source => s!"- spicycrab-{source}"
  packageFiles output crate (reexportProjectFile crate sources version module)
    (Reexport.declarations crate sources) (Reexport.mappingFile crate version texts)
    (readMe crate [s!"This crate re-exports from: {names}", ""]
      s!"from {module} import Command, Arg, ..."
      (["", "## Dependencies", "", "This package depends on:"] ++
        if dependencies.isEmpty then [""] else dependencies))

/-! ## Writing packages -/

def mappingText (t : Tree) (output crate : String) : Except FileFault (Option String) := do
  let path := mappingPath output crate
  if t.has path then return some (Text.asRead (← t.read path).text) else return none

def writePackage (output crate : String) (files : List TextFile) : Filing Unit := do
  Filing.makeAll (packageDirectory output crate)
  files.forM fun (path, text) => Filing.write path text

def writeReexport (output crate version : String) (sources : List String) : Filing Unit := do
  let t ← get
  let texts ← sources.mapM fun source =>
    return (source, ← Filing.orFault (mappingText t output source))
  writePackage output crate (reexportPackage output crate version texts)

end Oxidize.Stub
