import Oxidize.Diagnostic
import Oxidize.Library.Mapping

/-!
# The registry of installed packages

A package describes how the interface of one crate is written in the source language. The registry
holds the installed packages in their order, under their names, and the log of the look-ups made in
it. Packages are found among the installed distributions: those that register themselves come first,
then the distributions whose name says that they describe a crate.
-/

namespace Oxidize

/-- A package that describes a crate, with the values that the description gives. -/
structure Package where
  name : Value
  crate : Value
  version : Value
  module : Value
  dependencies : Value := .table []
  functions : Table Mapping := []
  methods : Table Mapping := []
  types : Table Value := []
  /-- Paths of enum variants, under `Type.Variant`. -/
  variants : Table Value := []
  availableFeatures : Value := .list []
  /-- The features that are on when nothing else is said. -/
  defaultFeatures : Value := .list []

namespace Package

def items (v : Value) (key : String) : Except ValueFault (List Value) := do
  (← v.entryOr key (.list [])).listed

/-- What functions and methods have in common: the mapping without its own name, and the name that
the description gives. -/
def mappingOf (package entry : Value) (readName : Value → Except ValueFault Value) :
    Except ValueFault Mapping := do
  let module ← package.atKey "python_module"
  let func ← readName (← entry.atKey "python")
  let template ← entry.atKey "rust_code"
  let imports ← entry.entryOr "rust_imports" (.list [])
  let fallible ← entry.entryOr "needs_result" (.bool false)
  let paramTypes ← entry.entryOr "param_types" .null
  return { module, func, template, imports, fallible, paramTypes }

def functionOf (package entry : Value) : Except ValueFault (String × Mapping) := do
  let lastPart (name : Value) : Except ValueFault Value :=
    (name.textFor "split").map fun name => .str (Text.afterLast name ".")
  let mapping ← mappingOf package entry lastPart
  return (← (← entry.atKey "python").keyText, mapping)

def methodOf (package entry : Value) : Except ValueFault (String × Mapping) := do
  let mapping ← mappingOf package entry .ok
  let returns ← entry.entryOr "returns" .null
  return (← mapping.func.keyText, { mapping with returns })

def pathOf (entry : Value) : Except ValueFault (String × Value) := do
  let path ← entry.atKey "rust"
  let name ← entry.atKey "python"
  return (← name.keyText, path)

def ofConfig (config : Value) : Except ValueFault Package := do
  let package ← config.atKey "package"
  let mappings ← config.entryOr "mappings" (.table [])
  let functions ← (← items mappings "functions").mapM (functionOf package)
  let methods ← (← items mappings "methods").mapM (methodOf package)
  let types ← (← items mappings "types").mapM pathOf
  let variants ← (← items mappings "enum_variants").mapM pathOf
  let cargo ← config.entryOr "cargo" (.table [])
  let features ← cargo.entryOr "features" (.table [])
  let name ← package.atKey "name"
  let crate ← package.atKey "rust_crate"
  let version ← package.atKey "rust_version"
  let module ← package.atKey "python_module"
  let dependencies ← cargo.entryOr "dependencies" (.table [])
  let availableFeatures ← features.entryOr "available" (.list [])
  let defaultFeatures ← features.entryOr "default" (.list [])
  return { name, crate, version, module, dependencies
           functions := Table.ofList functions
           methods := Table.ofList methods
           types := Table.ofList types
           variants := Table.ofList variants
           availableFeatures
           defaultFeatures }

end Package

/-- The installed packages and the log of look-ups. -/
structure Registry where
  packages : Table Package := []
  log : Log := {}

abbrev Lookup (α : Type) := StateM Registry α

namespace Registry

/-- The registry with these packages; a later one with the same name takes the earlier one's
place. -/
def ofPackages (packages : List Package) : Except ValueFault Registry := do
  let named ← packages.mapM fun p => return (← p.name.keyText, p)
  return { packages := Table.ofList named }

def note (kind counter : String) (details : Table Value) : Lookup Unit :=
  modify fun r => { r with log := (r.log.decide kind details).count counter }

/-- The answer of the package of `crate?`, or else the first one among all packages, with the crate
that gives it. -/
def found? {α : Type} (r : Registry) (crate? : Option String) (find : Package → Option α) :
    Option (Value × α) :=
  match crate? with
  | some crate => ((r.packages.get? crate).bind find).map (.str crate, ·)
  | none => r.packages.values.findSome? fun p => (find p).map (p.name, ·)

/-- The crate that a look-up names, or else the one that gives the answer. -/
def crateOf? {α : Type} (crate? : Option String) (found : Option (Value × α)) : Option Value :=
  (crate?.map .str).or (found.map Prod.fst)

def searchDetails (crate? : Option String) : Table Value :=
  if crate?.isNone then [("legacy_search", .bool true)] else []

/-- Note a look-up, and give what it found. -/
def noted {α : Type} (kind counter : String) (found : Option (Value × α))
    (details : Table Value) : Lookup (Option α) := do
  note kind (counter ++ if found.isSome then "_hits" else "_misses") details
  return found.map Prod.snd

def function? (key : String) : Lookup (Option Mapping) := do
  let found := (← get).found? none (·.functions.get? key)
  noted "stub_function_lookup" "stub_function" found <|
    [("key", .str key), ("found", .bool found.isSome)] ++
      found.toList.flatMap fun (crate, m) => [("crate", crate), ("rust_code", m.template)]

def method? (type method : String) (crate? : Option String) : Lookup (Option Mapping) := do
  let key := s!"{type}.{method}"
  let found := (← get).found? crate? (·.methods.get? key)
  noted "stub_method_lookup" "stub_method" found <|
    [("key", .str key), ("found", .bool found.isSome)] ++
      (crateOf? crate? found).toList.map ("crate", ·) ++
      found.toList.map (fun (_, m) => ("rust_code", m.template)) ++ searchDetails crate?

/-- The path of a type, from the package of `crate?` if one is named. -/
def type? (type : String) (crate? : Option String) : Lookup (Option Value) := do
  let found := (← get).found? crate? (·.types.get? type)
  noted "stub_type_lookup" "stub_type" found <|
    [("python_type", .str type), ("crate", (crateOf? crate? found).getD .null),
     ("found", .bool found.isSome)] ++
      found.toList.map (fun (_, path) => ("rust_type", path)) ++ searchDetails crate?

/-- The path of an enum variant, from the package of `crate?` if one is named. -/
def variant? (type variant : String) (crate? : Option String) : Lookup (Option Value) := do
  let key := s!"{type}.{variant}"
  let found := (← get).found? crate? (·.variants.get? key)
  noted "stub_enum_variant_lookup" "stub_enum_variant" found <|
    ("key", .str key) :: (crateOf? crate? found).toList.map ("crate", ·) ++
      ("found", .bool found.isSome) :: found.toList.map fun (_, path) => ("rust_path", path)

def packageOfModule? (r : Registry) (module : String) : Option Package :=
  r.packages.values.find? fun p => p.module == .str module

def crateOfModule? (r : Registry) (module : String) : Option Value :=
  (r.packageOfModule? module).map Package.name

def package? (crate : String) : Lookup (Option Package) :=
  return (← get).packages.get? crate

def importedCrate? (module : String) : Lookup (Option Value) :=
  return (← get).crateOfModule? module

def selected (r : Registry) : Option (List String) → List Package
  | none => r.packages.values
  | some crates => Table.values (r.packages.filter fun entry => crates.contains entry.1)

def entryOf (item : Value) : Except ValueFault (String × Value) := do
  match ← item.listed with
  | [key, value] => return (← key.keyText, value)
  | parts => throw (.notPair parts.length)

def dependenciesIn : Value → Except ValueFault (Table Value)
  | .table entries => .ok entries
  | other => do (← other.listed).mapM entryOf

def dependencies (r : Registry) (crates? : Option (List String)) :
    Except ValueFault (Table Value) :=
  (r.selected crates?).foldlM
    (fun deps p => return deps.update (← dependenciesIn p.dependencies)) []

def clear (r : Registry) : Registry :=
  { r with packages := [] }

end Registry

/-! ## Features that a project asks for -/

namespace Features

/-- An entry of a table, or the empty table; `none` if there is no table to look into. -/
def member? (v : Value) (key : String) : Option Value :=
  v.entries?.map fun entries => (Table.get? entries key).getD (.table [])

def shared? (config : Value) : Option Value := do
  let tools ← member? config "tool"
  let tool ← member? tools "spicycrab"
  let features ← member? tool "features"
  if features.isSet then some features else none

/-- The features that a project asks for, from its shared and its own configuration as far as they
are there and can be read. -/
def ofConfigs (shared own : Option Value) : Value :=
  ((shared.bind shared?).or (own.bind (member? · "features"))).getD (.table [])

def entry? (entries : Table Value) (key : Value) : Except ValueFault (Option Value) :=
  match key with
  | .str name => .ok (entries.get? name)
  | other => (other.keyText).map fun _ => none

def asked? (asked name : Value) : Except ValueFault (Option Value) :=
  match asked, name with
  | .table entries, _ => entry? entries name
  | .list items, _ => if items.contains name then .error .listByKey else .ok none
  | .str text, .str name => if Text.contains text name then .error .textByKey else .ok none
  | other, _ => .error (.holdsNothing other.form)

/-- The features for a package: those asked for under one of its names, else its default ones. -/
def forPackage (asked : Value) (p : Package) : Except ValueFault Value := do
  match ← asked? asked p.name with
  | some features => return features
  | none =>
    match ← asked? asked p.crate with
    | some features => return features
    | none =>
      if p.defaultFeatures.isSet then return .list (← p.defaultFeatures.listed)
      else return .list []

def merged (features more : List Value) : List Value :=
  more.foldl (fun acc f => if acc.contains f then acc else acc ++ [f]) features

def withFeatures (base features : Value) : Except ValueFault Value := do
  match base with
  | .table entries =>
    if features.isSet then
      let there ← ((Table.get? entries "features").getD (.list [])).listed
      return .table (Table.set entries "features" (.list (merged there (← features.listed))))
    else return base
  | _ =>
    if features.isSet then return .table [("version", base), ("features", features)]
    else return base

/-- What a package says about the dependency on its own crate, under one of its names. -/
def ownDependency? (dependencies : Table Value) (p : Package) :
    Except ValueFault (Option Value) := do
  match (← entry? dependencies p.name).filter (· != .null) with
  | some own => return some own
  | none =>
    if p.crate == p.name then return none
    else return (← entry? dependencies p.crate).filter (· != .null)

def dependenciesOf (asked : Value) (p : Package) : Except ValueFault (Table Value) := do
  match p.dependencies with
  | .table dependencies =>
    let own? ← ownDependency? dependencies p
    if own?.isNone && !dependencies.isEmpty then return dependencies
    let base := own?.getD p.version
    return [(← p.name.keyText, ← withFeatures base (← forPackage asked p))]
  | other => throw (.noOperation other.form "get")

end Features

namespace Registry

/-- The dependencies of the selected packages with the features that a project asks for. -/
def dependenciesWith (r : Registry) (asked : Value) (crates? : Option (List String)) :
    Except ValueFault (Table Value) :=
  (r.selected crates?).foldlM
    (fun deps p => return deps.update (← Features.dependenciesOf asked p)) []

def availableFeatures (r : Registry) (crate : String) : Except ValueFault (List Value) :=
  ((r.packages.get? crate).map fun p => p.availableFeatures.listed).getD (.ok [])

/-- The features of a crate that are on when nothing else is said. -/
def defaultFeatures (r : Registry) (crate : String) : Except ValueFault (List Value) :=
  ((r.packages.get? crate).map fun p => p.defaultFeatures.listed).getD (.ok [])

end Registry

/-! ## Discovery of packages -/

structure Distribution where
  name : String
  entryPoints : List (String × String) := []
  group : String := "spicycrab.stubs"
  modules : Table (Option Value) := []

namespace Discovery

def group : String := "spicycrab.stubs"

def distributionStart : String := "spicycrab-"

def load? (installed : List Distribution) (module : String) : Option Package := do
  let config ← installed.findSome? fun d => d.modules.get? module
  (Package.ofConfig (← config)).toOption

/-- Add a package under its name; `none` if the name cannot be one. -/
def add? (packages : Table Package) : Option Package → Option (Table Package)
  | some p => (p.name.keyText.toOption).map fun name => packages.set name p
  | none => some packages

def registered (installed : List Distribution) : Table Package :=
  let points := (installed.filter fun d => d.group == group).flatMap (·.entryPoints)
  points.foldl (fun packages point => (add? packages (load? installed point.2)).getD packages) []

/-- Add the packages of distributions to those that are known. The search ends at a package whose
name cannot be one. -/
def addNamed (installed : List Distribution) (packages : Table Package) :
    List Distribution → Table Package
  | [] => packages
  | d :: others =>
    if packages.has (Text.replaceAll d.name distributionStart "") then
      addNamed installed packages others
    else
      match add? packages (load? installed (Text.replaceAll d.name "-" "_")) with
      | some more => addNamed installed more others
      | none => packages

def packages (installed : List Distribution) : Table Package :=
  addNamed installed (registered installed)
    (installed.filter fun d => Text.startsWith d.name distributionStart)

end Discovery

def Mapping.ofDocument (v : Value) : Mapping :=
  let given (key : String) (default : Value) : Value :=
    ((v.field? key).map Value.plain).getD default
  { module := given "module" (.str "")
    func := given "func" (.str "")
    template := given "rust_code" (.str "")
    imports := given "rust_imports" (.list [])
    fallible := given "needs_result" (.bool false)
    paramTypes := given "param_types" .null
    returns := given "returns" .null }

def Mapping.toDocument (m : Mapping) : Value :=
  .table [("module", m.module), ("func", m.func), ("rust_code", m.template),
    ("rust_imports", m.imports), ("needs_result", m.fallible), ("param_types", m.paramTypes),
    ("cargo_deps", (m.crates.map Value.ofTexts).getD .null), ("returns", m.returns)]

def Package.toDocument (p : Package) : Value :=
  let mappings (t : Table Mapping) : Value := .table (t.map fun (k, m) => (k, m.toDocument))
  .table [("name", p.name), ("rust_crate", p.crate), ("rust_version", p.version),
    ("python_module", p.module), ("cargo_deps", p.dependencies.ordered),
    ("functions", mappings p.functions), ("methods", mappings p.methods),
    ("types", .table p.types), ("enum_variants", .table p.variants),
    ("available_features", p.availableFeatures), ("default_features", p.defaultFeatures)]

end Oxidize
