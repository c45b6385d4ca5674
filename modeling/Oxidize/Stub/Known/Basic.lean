import Oxidize.Table

/-!
# What is known of a crate beforehand

Some crates have parts that their interface does not show well: types of the standard library that
they are used with, macros, constants, and functions that live elsewhere than where they are
declared.
-/

namespace Oxidize.Stub

structure CallMapping where
  python : String
  code : String
  imports : List String := []
  fallible : Bool := false
  isAsync : Bool := false
  returnsSelf : Bool := false
  returns? : Option String := none
  paramTypes : List String := []

structure KnownType where
  name : String
  stub : List String
  rust : String
  calls : List CallMapping := []

structure KnownFunction where
  name : String
  stub : List String
  call : CallMapping

structure KnownConstant where
  name : String
  type : String
  methods : List CallMapping := []

structure KnownCrate where
  /-- Types that are offered in place of the crate's types of the same names. -/
  types : List KnownType := []
  functions : List KnownFunction := []
  macros : List KnownFunction := []
  extraTypes : List KnownType := []
  methods : List CallMapping := []
  constructors : List CallMapping := []
  constants : List KnownConstant := []
  functionPaths : Table (String × List String) := []
  /-- Types of the parameters of functions, in place of the declared ones. -/
  paramTypes : Table (List String) := []
  typePaths : Table String := []
  methodTraits : Table String := []

namespace Known

/-- The lines of a docstring, set in by `margin`. One of a single line ends on that line. -/
def docLines (margin : String) : List String → List String
  | [] => []
  | [line] => [s!"{margin}\"\"\"{line}\"\"\""]
  | first :: rest =>
    s!"{margin}\"\"\"{first}" ::
      rest.map (fun line => if line.isEmpty then "" else margin ++ line) ++ [s!"{margin}\"\"\""]

/-- The lines of a function without a body, after an empty line. -/
def function (head : String) (doc : List String) : List String :=
  ["", head ++ ":"] ++ docLines "    " doc ++ ["    ...", ""]

def method (head : String) (doc : List String) : List String :=
  s!"    def {head}:" :: docLines "        " doc ++ ["        ...", ""]

def asyncMethod (head : String) (doc : List String) : List String :=
  s!"    async def {head}:" :: docLines "        " doc ++ ["        ...", ""]

def staticMethod (head : String) (doc : List String) : List String :=
  "    @staticmethod" :: method head doc

def classLines (head : String) (doc : List String) (methods : List (List String)) : List String :=
  ["", s!"class {head}:"] ++ docLines "    " doc ++
    match methods with
    | [] => ["    pass", ""]
    | _ :: _ => "" :: methods.flatten

/-- A type of `crate` that one class stands for. The class's docstring says what it is about, names
the path and goes on with `more`; `calls` are its functions, with the arguments they pass on. -/
def classType (crate name rust : String) (about more : List String) (methods : List (List String))
    (calls : Table String := []) (generic : Bool := false) : KnownType :=
  let (head, path) := if generic then (name ++ "(Generic[T])", rust ++ "<T>") else (name, rust)
  { name, rust,
    stub := classLines head (about ++ ["", s!"Maps to {path} in Rust."] ++ more) methods,
    calls := calls.map fun (call, args) =>
      { python := s!"{crate}.{name}.{call}", code := s!"{rust}::{call}{args}" } }

/-- A function of `crate` that is written as `code`. -/
def crateFunction (crate name params code : String) (doc : List String)
    (imports : List String := []) (isAsync : Bool := false) : KnownFunction where
  name := name
  stub := function ((if isAsync then "async def " else "def ") ++ name ++ params) doc
  call := { python := s!"{crate}.{name}", code, imports, isAsync }

/-- A call that gives a value of the type `returns`. -/
def giving (python code returns : String) (paramTypes : List String := []) : CallMapping :=
  { python, code, returns? := some returns, paramTypes }

end Known

end Oxidize.Stub
