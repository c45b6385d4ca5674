import Oxidize.Data.Value

/-!
# Mappings of library calls

A mapping says how a call into a library is written in the target language: a template with
placeholders for the receiver and the arguments, what the template needs in scope, and whether its
value is a fallible result.
-/

namespace Oxidize

/-- How one call into a library is written in the target language. -/
structure Mapping where
  module : Value := .str ""
  func : Value := .str ""
  template : Value
  imports : Value := .list []
  fallible : Value := .bool false
  /-- The types of the parameters, where they decide how an argument is passed. -/
  paramTypes : Value := .null
  crates : Option (List String) := none
  /-- The type of the value, where further calls on it are looked up. -/
  returns : Value := .null

namespace Mapping

def row (func template : String) (imports : List String := []) (fallible : Bool := false) :
    Mapping :=
  { func := .str func, template := .str template, imports := .ofTexts imports,
    fallible := .bool fallible }

/-- Methods that are called under their own names, with the same text behind the name. -/
def calls (rest : String) (names : List String) (fallible : Bool := false) : List Mapping :=
  names.map fun n => row n ("{self}." ++ n ++ rest) [] fallible

def bare (names : List String) (fallible : Bool := false) : List Mapping :=
  calls "()" names fallible

def passing (names : List String) (fallible : Bool := false) : List Mapping :=
  calls "({args})" names fallible

/-- Functions of the target's module `path` under their own names. -/
def paths (path rest : String) (names : List String) (fallible : Bool := false) : List Mapping :=
  names.map fun n => row n (path ++ "::" ++ n ++ rest) [path] fallible

/-- Types of the target's module `path` under their own names. -/
def types (path : String) (names : List String) : List Mapping :=
  names.map fun n => row n (path ++ "::" ++ n) [path ++ "::" ++ n]

/-- Functions of a type of the target's module `path`, under `type.function`. -/
def associated (path type rest : String) (names : List String) (fallible : Bool := false) :
    List Mapping :=
  names.map fun n =>
    row (type ++ "." ++ n) (path ++ "::" ++ type ++ "::" ++ n ++ rest) [path ++ "::" ++ type] fallible

/-- Types of the target's module `path` with their function `new`. -/
def madeTypes (path rest : String) (names : List String) : List Mapping :=
  names.flatMap fun n => types path [n] ++ associated path n rest ["new"]

/-- Types of the target's module `path` that are called in place of their function `new`. -/
def calledTypes (path rest : String) (names : List String) : List Mapping :=
  names.flatMap fun n =>
    let new := associated path n rest ["new"]
    new.map ({ · with func := .str n }) ++ new

def returning (m : Mapping) (type : String) : Mapping :=
  { m with returns := .str type }

def importing (m : Mapping) (paths : List String) : Mapping :=
  { m with imports := .ofTexts paths }

def needing (m : Mapping) (crates : List String) : Mapping :=
  { m with crates := some crates }

def functions (module : String) (rows : List Mapping) : Table Mapping :=
  rows.map fun m => (s!"{module}.{m.func.display}", { m with module := .str module })

/-- The functions of a class of a module, under `module.class.function`. -/
def statics (module owner : String) (rows : List Mapping) : Table Mapping :=
  rows.map fun m => (s!"{module}.{owner}.{m.func.display}", { m with module := .str module })

def methods (module type : String) (rows : List Mapping) : Table Mapping :=
  rows.map fun m => (s!"{type}.{m.func.display}", { m with module := .str module })

/-- The methods of several types of a module. -/
def typeMethods (module : String) (types : List (String × List Mapping)) : Table Mapping :=
  types.flatMap fun (type, rows) => methods module type rows

end Mapping

end Oxidize
