import Oxidize.Emit.Class

/-!
# Modules

The imports of a source module say where its names come from: the native library, a package that
describes a crate, or another module of the project. A module is written as its imports, its
classes, its functions, its constants, and a main function that holds its other statements.
-/

namespace Oxidize.Emit

/-! ## Imports -/

open IR (Import)

def importedAs (name : String) (alias? : Option String) : String :=
  (alias?.filter (· != "")).getD name

def noteAlias (name : String) (alias? : Option String) : Emit Unit :=
  match alias?.filter (· != "") with
  | some a => change fun c => { c with importAliases := c.importAliases.set a name }
  | none => return ()

def noteClass (name imported : String) : Emit Unit := do
  if ← namesClass name then
    change fun c => { c with classNames := c.classNames.add imported }

def importNative (module : String) (names : Table (Option String)) : Emit Unit :=
  names.forM fun (name, alias?) => do
    let imported := importedAs name alias?
    change fun c => { c with
      nativeImports := c.nativeImports.set imported module
      nativeTypes := c.nativeTypes.add imported }
    noteAlias name alias?

def importPackage (module crate : String) (names : Table (Option String)) :
    Emit Unit := do
  if !names.isEmpty then
    note "stub_import_discovered" "stub_imports"
      [("module", .str module), ("crate", .str crate),
       ("names", .list (names.map fun n => .str n.1))]
    names.forM fun (name, alias?) => do
      let imported := importedAs name alias?
      change fun c => { c with crateImports := c.crateImports.set imported crate }
      resolving (Resolver.importName imported crate)
      noteAlias name alias?
      noteClass name imported

def importLocal (module : String) (names : Table (Option String)) : Emit Unit := do
  let added := if names.isEmpty then [(module, none)] else names
  change fun c => { c with
    localImports := c.localImports.set module ((c.localImports.get? module).getD [] ++ added) }
  names.forM fun (name, alias?) => noteClass name (importedAs name alias?)

def processImport (i : Import) : Emit Unit := do
  let module := Text.before i.module "."
  if module == "rust_std" then importNative i.module i.names
  else
    match (← lookup (Registry.importedCrate? module)).filter Value.isSet with
    | some crate => importPackage module (← orValueFault crate.keyText) i.names
    | none =>
      if (← context).localModules.contains module then importLocal module i.names
      else return ()

def processImports (imports : List Import) : Emit Unit :=
  imports.forM processImport

def derived? : List Char → Option (List Char)
  | [] => none
  | c :: cs =>
    let start := "#[derive(".toList
    if start.isPrefixOf (c :: cs) then
      let rest := (c :: cs).drop start.length
      let content := rest.takeWhile (· != ')')
      if content.isEmpty || content.length == rest.length then derived? cs else some content
    else derived? cs

def derivedTraits (line : String) : List String :=
  match derived? line.toList with
  | some content => (Text.splitOn (String.ofList content) ",").map Text.trim
  | none => []

def requestMethods : List String :=
  ["get", "post", "put", "delete", "patch", "head", "options"]

def useNames (crate : String) (names : List String) : List String :=
  match names with
  | [] => []
  | [name] => [s!"use {crate}::{name};"]
  | _ => [s!"use {crate}::" ++ "\x7b" ++ Text.commas names ++ "\x7d;"]

def attributeImports (attributes : List String) : List String :=
  let traits := attributes.flatMap derivedTraits
  let parser := if traits.contains "Parser" then ["use clap::Parser;"] else []
  let serde := NameSet.ofList (traits.filter fun t => t == "Serialize" || t == "Deserialize")
  let methods := requestMethods.filter fun m =>
    attributes.any fun a => Text.startsWith a s!"#[{m}("
  parser ++ useNames "serde" (NameSet.sorted serde)
    ++ useNames "actix_web" (NameSet.sorted methods)

def moduleAttributes (m : IR.Module) : List String :=
  m.functions.flatMap (·.attributes)
    ++ m.classes.flatMap fun c => c.attributes ++ c.methods.flatMap (·.attributes)

/-- Traits and derived traits that have to be in scope although everything else of a crate is
written with its full path. -/
def scopedItems : List String :=
  ["Datelike", "Timelike", "SubsecRound", "DurationRound", "Digest", "Engine", "Parser",
   "Serialize", "Deserialize"]

/-- Is the import needed although the crate's items are written with their full paths? -/
def isScoped (line : String) : Bool :=
  (scopedItems.any fun item => Text.endsWith line s!"::{item};") || Text.endsWith line "::*;"

def isRedundant (crates : List String) (line : String) : Bool :=
  !isScoped line && crates.any fun crate => Text.startsWith line s!"use {crate}::"

def useLine (path : String) (alias? : Option String) : String :=
  match alias?.filter (· != "") with
  | some a => s!"use {path} as {a};"
  | none => s!"use {path};"

/-- How the crate is named in its own paths. -/
def crateRoot (c : Context) : String :=
  (c.crateName.filter (· != "")).getD "crate"

def localImportLines (c : Context) : List String :=
  let root := crateRoot c
  c.localImports.flatMap fun (module, names) => names.map fun (name, alias?) =>
    useLine s!"{root}::{module}::{name}" alias?

def importLines (m : IR.Module) : Emit (List String) := do
  let c ← context
  let collections := NameSet.sorted m.collections
  let collectionLine :=
    if collections.isEmpty then []
    else ["use std::collections::\x7b" ++ Text.commas collections ++ "\x7d;"]
  let crates := c.crateImports.values
  let whole := if crates.contains "anyhow" then ["use anyhow;"] else []
  let needed := collectionLine ++ attributeImports (moduleAttributes m)
    ++ (← resolving Resolver.neededUses)
    ++ (c.libraryImports ++ c.extraImports).map (fun path => s!"use {path};") ++ whole
  let kept := needed.filter fun line => !isRedundant crates line
  return NameSet.sorted (NameSet.ofList (kept ++ localImportLines c))

/-! ## Modules -/

open IR (Expr Stmt)

def isModuleName : Expr → Bool
  | .name n _ => n == "__name__"
  | _ => false

def isMainText : Expr → Bool
  | .literal (.str s) _ => s == "__main__"
  | _ => false

def isMainCheck : Stmt → Bool
  | .ifStmt (.binary .eq left right _) _ _ _ _ =>
    (isModuleName left && isMainText right) || (isModuleName right && isMainText left)
  | _ => false

def runsAsync : Stmt → Bool
  | .expr (.call (.attr (.name module _) func _) _ _ _) _ => module == "asyncio" && func == "run"
  | _ => false

def isConstantName (name : String) : Bool :=
  Text.isUpperText name
    || (Text.isUpperText (Text.replaceAll name "_" "") && Text.contains name "_")

def isConstant : Stmt → Bool
  | .assign target (.literal ..) _ _ _ _ => isConstantName target
  | _ => false

def constantValue (value : Expr) : Emit (String × String) := do
  match value with
  | .literal (.str s) _ => return ("&str", s!"\"{s}\"")
  | .literal (.bool b) _ => return ("bool", literalText (.bool b))
  | .literal (.int i) _ => return ("i64", toString i)
  | .literal (.float text) _ => return ("f64", text)
  | _ => return ("/* unknown */", ← expr value)

def constant (target : String) (value : Expr) : Emit String := do
  let (type, code) ← constantValue value
  return s!"pub const {target}: {type} = {code};"

def constantItem : Stmt → Emit (List String)
  | .assign target value _ _ _ _ => return [← constant target value, ""]
  | _ => return []

def noteResults (m : IR.Module) : Emit Unit := do
  let isResult (t : Option IR.Ty) : Bool := (t.map IR.Ty.isResult).getD false
  let functions := (m.functions.filter fun f => isResult f.result).map (·.name)
  let methods := m.classes.flatMap fun c =>
    (c.methods.filter fun f => isResult f.result).flatMap fun f =>
      [s!"{c.name}.{f.name}", f.name]
  change fun c => { c with resultFunctions := c.resultFunctions.addAll (functions ++ methods) }

def mainLines (statements : List Stmt) : Emit (List String) := do
  if statements.isEmpty then return []
  else
    change fun c => { c with indent := 1 }
    let lines ← statements.mapM stmt
    change fun c => { c with indent := 0 }
    return ["fn main()" ++ Code.opening] ++ lines ++ [Code.closing, ""]

def opening (m : IR.Module) : Emit Unit := do
  change fun c => { c with classNames := NameSet.ofList (m.classes.map (·.name)) }
  noteResults m
  processImports m.imports
  let imported := (← context).crateImports
  resolving (Resolver.takeImports imported)

def header (m : IR.Module) (imports : List String) : List String :=
  let doc := match m.docstring.filter (· != "") with
    | some text => ["//! " ++ Text.before text "\n", ""]
    | none => []
  doc ++ if imports.isEmpty then [] else imports ++ [""]

/-- The statements at the top of a module that are put into a main function. -/
def leftOver (m : IR.Module) : List Stmt :=
  m.statements.filter fun s => !isConstant s && !isMainCheck s && !runsAsync s

def module (m : IR.Module) : Emit String := do
  opening m
  let classes ← m.classes.mapM fun c => return [← classItem c, ""]
  let functions ← m.functions.mapM fun f => return [← function f, ""]
  let constants ← (m.statements.filter isConstant).mapM constantItem
  let main ← mainLines (leftOver m)
  let imports ← importLines m
  return Text.join "\n"
    (header m imports ++ classes.flatten ++ functions.flatten ++ constants.flatten ++ main)

end Oxidize.Emit

namespace Oxidize.Emitter

def start (resolver : Resolver) (localModules : List String := [])
    (crateName : Option String := none) : Emitter :=
  { resolver, ctx := { localModules := NameSet.ofList localModules, crateName } }

end Oxidize.Emitter
