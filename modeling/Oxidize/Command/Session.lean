import Oxidize.Data.Json
import Oxidize.Emit.Context
import Oxidize.Files.Tree
import Oxidize.Interface.Basic

/-!
# Sessions

A command works on a tree of files and talks to what is outside of it: web servers, other programs,
the reader of Rust crates and the checker of Rust code.
-/

namespace Oxidize.LogRecord

/-- The directory that logs are saved in, below the directory of what is written. -/
def directory (r : LogRecord) (output : String) : String :=
  Path.join (Path.join output ".spicycrab-logs") r.operation

def save (r : LogRecord) (output stamp : String) : Filing String := do
  let directory := r.directory output
  Filing.makeAll directory
  let path := Path.join directory s!"{r.name}_{stamp}.json"
  Filing.write path (Json.pretty (r.toValue (some stamp)))
  return path

end Oxidize.LogRecord

namespace Oxidize.Command

structure Request where
  url : String
  agent : String
  timeout : Nat

inductive Reply where
  | body (text : String)
  | archive (files : Table String)
  | status (code : Int)
  | unreachable (reason : String)

structure Finished where
  code : Int := 0
  stdout : String := ""
  stderr? : Option String := none
  files : Table String := []

inductive Checker where
  | missing
  | accepts (heading : String)
  | rejects (reason : String)

structure Session where
  files : Tree := {}
  registry : Registry := {}
  replies : List Reply := []
  /-- What the programs that are still to be called will do. -/
  results : List Finished := []
  /-- The exit code of the package manager `uv`, if there is one. -/
  uv? : Option Int := none
  /-- What the reader of crates will find, if there is one: interfaces, or reasons why not. -/
  crates? : Option (List (Except String Interface.Crate)) := none
  checker : Checker := .missing
  stamp : String := ""
  requests : List Request := []
  calls : List (List String) := []
  crateDirectories : List String := []
  temporaries : Nat := 0
  output : String := ""

/-- What goes wrong beyond what a command reports. -/
inductive Fault where
  | file (fault : FileFault)
  | value (fault : ValueFault)
  | emission (error : EmitError)
  /-- A source file that cannot be taken over for a reason inside the tool. -/
  | lowering
  | notText
  | limit (fault : Json.Fault)
  | pattern (fault : PatternFault)

def Fault.className : Fault → String
  | .emission error => error.className
  | .lowering => "IndexError"
  | .notText => "UnicodeDecodeError"
  | .limit (.tooManyDigits _) | .pattern .malformed => "ValueError"
  | .limit _ => "RecursionError"
  | .pattern .absolute => "NotImplementedError"
  | .file (.missing _) => "FileNotFoundError"
  | .file (.occupied _) => "FileExistsError"
  | .file (.notDirectory _) => "NotADirectoryError"
  | .file (.isDirectory _) => "IsADirectoryError"
  | .value fault => fault.className

/-- How a command ends before its last step. -/
inductive Stop where
  | refused (message : String)
  | exit (code : Nat)
  | fault (fault : Fault)

def Stop.text : Stop → String
  | .refused message => message
  | .fault (.file f) => f.text
  | .fault (.value f) => f.text
  | .fault (.limit f) => f.message
  | .fault .notText => "'utf-8' codec can't decode byte 0x8b in position 1: invalid start byte"
  | _ => ""

abbrev Shell (α : Type) := ExceptT Stop (StateM Session) α

/-! ## Printing and files -/

def say (line : String) : Shell Unit :=
  modify fun s => { s with output := s.output ++ line ++ "\n" }

def sayAll (lines : List String) : Shell Unit :=
  lines.forM say

def fail {α : Type} (message : String) : Shell α :=
  throw (.refused message)

def quit {α : Type} (code : Nat) : Shell α :=
  throw (.exit code)

def tree : Shell Tree :=
  return (← get).files

def change (f : Tree → Tree) : Shell Unit :=
  modify fun s => { s with files := f s.files }

def orFault {ε α : Type} (kind : ε → Fault) : Except ε α → Shell α
  | .ok a => return a
  | .error e => throw (.fault (kind e))

def attempt {α : Type} (steps : Filing α) : Shell α := do
  let (result, files) := steps.run.run (← tree)
  change fun _ => files
  orFault .file result

/-- Make a directory, and those above it, unless they are there. -/
def makeDirectory (path : String) : Shell Unit :=
  attempt (.makeAll path)

def write (path text : String) : Shell Unit :=
  attempt (.write path text)

def searchFor (directory pattern : String) : Shell (List String) := do
  let pattern ← orFault .pattern (PathPattern.read pattern)
  return (← tree).search pattern directory

def temporaryDirectory : Shell String := do
  let number := (← get).temporaries + 1
  let path := s!"tmp{number}"
  modify fun s => { s with temporaries := number }
  makeDirectory path
  return path

/-! ## The outside -/

/-- An address as it is asked for: without blanks around it and without an empty fragment. -/
def askedAddress (url : String) : String :=
  Text.dropSuffix (Text.trim url) "#"

/-- Ask a web server. When no answers are left there is no response. -/
def fetch (request : Request) : Shell Reply := do
  let s ← get
  let request := { request with url := askedAddress request.url }
  set { s with requests := s.requests ++ [request], replies := s.replies.tail }
  return s.replies.head?.getD (.unreachable "no response")

/-- Call a program. What it writes is put into the tree first. -/
def call (command : List String) : Shell Finished := do
  let s ← get
  let finished := s.results.head?.getD {}
  set { s with
    calls := s.calls ++ [command]
    results := s.results.tail
    files := finished.files.foldl (fun t (path, text) => t.after (.put path { text })) s.files }
  return finished

def hasUv : Shell Bool := do
  modify fun s => { s with calls := s.calls ++ [["uv", "--version"]] }
  return (← get).uv? == some 0

def readCrate (directory : String) : Shell (Except String Interface.Crate) := do
  let s ← get
  let crates := s.crates?.getD []
  set { s with
    crateDirectories := s.crateDirectories ++ [Path.resolved directory]
    crates? := s.crates?.map List.tail }
  return crates.head?.getD (.error "no crate")

/-! ## The log -/

def startLog (operation name : String) : Shell Unit :=
  modify fun s => { s with registry := { s.registry with log := .start operation name } }

def saveLog (directory : String) : Shell (Option String) := do
  let s ← get
  match s.registry.log.record? with
  | none => return none
  | some record => return some (← attempt (record.save directory s.stamp))

/-! ## Sessions as documents -/

/-- Read a file: a text, a source file with its syntax tree, or the content of a configuration. -/
def fileOf (v : Value) : File :=
  match v.field? "toml" with
  | some content => { text := "", content? := some content.plain }
  | none =>
    match v.field? "source" with
    | some text => { text := text.text, content? := v.field? "ast" }
    | none => { text := v.text }

def treeOf (v : Value) : Tree :=
  (v.entries?.getD []).foldl (fun t (path, file) => t.after (.put path (fileOf file))) {}

def textsOf (v : Value) : Table String :=
  (v.entries?.getD []).map fun (path, text) => (path, text.text)

def replyOf (v : Value) : Reply :=
  if let some files := v.field? "tar" then .archive (textsOf files)
  else if let some text := v.textAt? "body" then .body text
  else if let .int code := v.get "status" then .status code
  else .unreachable (v.textAt "reason")

def numberOf : Value → Int
  | .int n => n
  | _ => 0

def finishedOf (v : Value) : Finished :=
  { code := numberOf (v.get "code"), stdout := v.textAt "stdout", stderr? := v.textAt? "stderr"
    files := textsOf (v.get "files") }

def crateOf (v : Value) : Except String Interface.Crate :=
  match v.textAt? "error" with
  | some message => .error message
  | none => .ok (Interface.Crate.ofDocument v)

def checkerOf (v : Value) : Checker :=
  match v.textAt? "rust_error", v.textAt? "format_prefix" with
  | some reason, _ => .rejects reason
  | none, some heading => .accepts heading
  | none, none => .missing

/-- Read a session: its files, the packages that are installed, and the answers of the outside. -/
def sessionOf (files : Value) (registry : Registry) (outside : Value) (stamp : String) : Session :=
  { files := treeOf files
    registry
    replies := (outside.itemsAt "http").map replyOf
    results := (outside.itemsAt "run").map finishedOf
    uv? := match outside.get "uv" with
      | .int code => some code
      | _ => none
    crates? := (outside.get "crates").items?.map fun crates => crates.map crateOf
    checker := checkerOf outside
    stamp }

def newFiles (before after : Tree) : Table String :=
  (after.files.filter fun (path, _) =>
    (Path.below? "." path).isSome && !Table.has before.files path).map fun (path, file) =>
      (path, file.text)

def Request.toDocument (r : Request) : Value :=
  .table [("url", .str r.url), ("agent", .str r.agent), ("timeout", .int r.timeout)]

def Session.askedDocument (s : Session) : Table Value :=
  [("http", .list (s.requests.map Request.toDocument)),
   ("run", .list (s.calls.map .ofTexts)),
   ("parsed", .ofTexts s.crateDirectories)]

end Oxidize.Command
