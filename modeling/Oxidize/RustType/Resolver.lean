import Oxidize.Crate.Registry
import Oxidize.IR.Basic

/-!
# Resolving annotated types

The resolver finds the type of the target language for a type of the intermediate form.

A type of the target language is a name with type arguments, possibly behind a reference.
-/

namespace Oxidize

inductive RustType where
  /-- A named type with its arguments, and the reference it stands behind. -/
  | mk (name : String) (generics : List RustType) (isReference isMutable : Bool)
      (lifetime : Option String)
  deriving Inhabited, BEq

namespace RustType

def named (name : String) : RustType :=
  .mk name [] false false none

def applied (name : String) (generics : List RustType) : RustType :=
  .mk name generics false false none

def name : RustType → String
  | .mk name .. => name

def referenceMark (isReference isMutable : Bool) (lifetime : Option String) : String :=
  if isReference then
    let life := match lifetime with
      | some l => if l == "" then "" else s!"'{l} "
      | none => ""
    s!"&{life}" ++ (if isMutable then "mut " else "")
  else ""

mutual

def render : RustType → String
  | .mk name generics isReference isMutable lifetime =>
    let args := if generics.isEmpty then "" else "<" ++ Text.commas (renderAll generics) ++ ">"
    referenceMark isReference isMutable lifetime ++ name ++ args

def renderAll : List RustType → List String
  | [] => []
  | t :: ts => render t :: renderAll ts

end

end RustType

structure Resolver where
  registry : Registry := {}
  imports : NameSet := []
  classes : Table RustType := []
  crateImports : Table String := []

abbrev Resolve (α : Type) := StateM Resolver α

namespace Resolver

def lookup {α : Type} (l : Lookup α) : Resolve α := do
  let r ← get
  let (a, registry) := l.run r.registry
  set { r with registry }
  return a

def need (module : String) : Resolve Unit :=
  modify fun r => { r with imports := r.imports.add module }

def imported : Resolve (Table String) :=
  return (← get).crateImports

def classType? (name : String) : Resolve (Option RustType) :=
  return (← get).classes.get? name

def importName (name crate : String) : Resolve Unit :=
  modify fun r => { r with crateImports := r.crateImports.set name crate }

def takeImports (imports : Table String) : Resolve Unit :=
  modify fun r => { r with crateImports := imports }

def primName : IR.Prim → String
  | .int => "i64"
  | .float => "f64"
  | .bool => "bool"
  | .str => "String"
  | .bytes => "Vec<u8>"
  | .none => "()"

def nativeNumbers : List String :=
  ["u8", "u16", "u32", "u64", "u128", "usize", "i8", "i16", "i32", "i64", "i128", "isize", "f32",
   "f64"]

def genericNames : Table String :=
  [("List", "Vec"), ("list", "Vec"), ("Dict", "HashMap"), ("dict", "HashMap"), ("Set", "HashSet"),
   ("set", "HashSet"), ("Tuple", ""), ("tuple", ""), ("Optional", "Option"), ("Result", "Result"),
   ("Sequence", "Vec"), ("Mapping", "HashMap"), ("FrozenSet", "HashSet"),
   ("frozenset", "HashSet"), ("Iterable", "Vec"), ("Iterator", "Vec"), ("Box", "Box"),
   ("Arc", "std::sync::Arc"), ("Rc", "std::rc::Rc")]

def calendarTypes : Table String :=
  [("datetime", "chrono::DateTime<chrono::Local>"), ("date", "chrono::NaiveDate"),
   ("time", "chrono::NaiveTime"), ("timedelta", "chrono::Duration"),
   ("timezone", "chrono::FixedOffset")]

def crateIdent (crate : String) : String :=
  Text.replaceAll crate "-" "_"

def typePath? (name crate : String) : Resolve (Option String) := do
  return ((← lookup (Registry.type? name (some crate))).filter Value.isSet).map Value.display

/-- The type of a class that is imported from a package: the path the package gives, or one below
`parent`. -/
def importedType (name crate parent : String) : Resolve RustType := do
  return .named ((← typePath? name crate).getD s!"{parent}::{name}")

/-- The type of a class that is not built in: imported through its module, imported by name,
registered, or taken as it stands. -/
def resolveUnknown (name : String) (module : Option String) : Resolve RustType := do
  let imports ← imported
  match module.bind fun m => (imports.get? m).map fun crate => (m, crate) with
  | some (m, crate) =>
    if m == "" then byName imports else importedType name crate s!"{crate}::{m}"
  | none => byName imports
where
  byName (imports : Table String) : Resolve RustType := do
    match imports.get? name with
    | some crate => importedType name crate crate
    | none => return (← classType? name).getD (.named name)

def resolveClass (name : String) (module : Option String) : Resolve RustType := do
  if nativeNumbers.contains name then return .named name
  else if name == "object" then return .named "()"
  else if name == "Any" then
    need "serde_json"
    return .named "Value"
  else if ["Path", "PurePath", "PosixPath", "WindowsPath"].contains name then
    need "std::path"
    return .named "PathBuf"
  else if module == some "datetime" then
    need "chrono"
    match calendarTypes.get? name with
    | some type => return .named type
    | none => resolveUnknown name module
  else resolveUnknown name module

/-- A trait of the service framework as the success type of a result: its values live behind a
pointer. -/
def boxedTrait? (t : IR.Ty) : Resolve (Option RustType) := do
  match t with
  | .cls name _ =>
    if (← imported).get? name == some "tunnelbana-core" &&
        ["Frontend", "Backend", "MicroService"].contains name then
      return some (.named s!"Box<dyn tunnelbana_core::{name}>")
    else return none
  | _ => return none

def choiceName (name : Option String) : String :=
  (name.filter (· != "")).getD "UnionType"

mutual

def resolve : IR.Ty → Resolve RustType
  | .prim kind => return .named (primName kind)
  | .generic name args => do
    if name == "Optional" then
      match args with
      | [] => return .applied "Option" [.named "()"]
      | a :: _ => return .applied "Option" [← resolve a]
    else if name == "Tuple" || name == "tuple" then
      if args.isEmpty then return .named "()"
      let items ← resolveAll args
      return .named ("(" ++ Text.commas (RustType.renderAll items) ++ ")")
    else
      let imports ← imported
      match (Text.cut? name ".").bind fun (m, t) => (imports.get? m).map fun c => (m, t, c) with
      | some (module, type, crate) =>
        let generics ← resolveAll args
        return .applied s!"{crateIdent crate}::{module}::{type}" generics
      | none =>
        match imports.get? name with
        | some crate =>
          match ← typePath? name crate with
          | some path =>
            match args with
            | [] => return .applied path []
            | a :: rest =>
              if path == "anyhow::Result" then
                match rest with
                | [] => return .applied "anyhow::Result" [← resolve a]
                | e :: _ =>
                  let error ← resolve e
                  if error.name == "anyhow::Error" || error.name == "Error" then
                    return .applied "anyhow::Result" [← resolve a]
                  else
                    return .applied "Result" [← resolve a, error]
              else if Text.endsWith path "::Result" then
                match ← boxedTrait? a with
                | some boxed => return .applied path [boxed]
                | none => return .applied path [← resolve a]
              else
                let first ← resolve a
                let others ← resolveAll rest
                return .applied path (first :: others)
          | none => return .applied s!"{crate}::{name}" (← resolveAll args)
        | none =>
          let target := (genericNames.get? name).getD name
          if target == "HashMap" || target == "HashSet" then need "std::collections"
          return .applied target (← resolveAll args)
  | .union [a, b] choice => do
    if a.isNone && !b.isNone then return .applied "Option" [← resolve b]
    else if b.isNone && !a.isNone then return .applied "Option" [← resolve a]
    else return .named (choiceName choice)
  | .union _ choice => return .named (choiceName choice)
  | .func _ _ => return .named "()"
  | .cls name module => resolveClass name module

def resolveAll : List IR.Ty → Resolve (List RustType)
  | [] => return []
  | t :: ts => do
    let first ← resolve t
    let others ← resolveAll ts
    return first :: others

end

def resolveOption : Option IR.Ty → Resolve RustType
  | none => return .named "()"
  | some t => resolve t

def register (r : Resolver) (name : String) (type : RustType := .named name) : Resolver :=
  { r with classes := r.classes.set name type }

/-- The `use` lines that the resolved types need. Collections are imported by what the program
uses of them, and not here. -/
def useLines (r : Resolver) : List String :=
  (if r.imports.contains "serde_json" then ["use serde_json::Value;"] else []) ++
    (if r.imports.contains "std::path" then ["use std::path::PathBuf;"] else [])

def neededUses : Resolve (List String) :=
  return (← get).useLines

def ofModule (registry : Registry) (m : IR.Module) : Resolver :=
  m.classes.foldl (fun r c => r.register c.name) { registry }

end Resolver

end Oxidize
