import Oxidize.Diagnostic

/-!
# Names in stubs

Names of a crate become names of Python: reserved words get an underscore, and parameters that share
a name are numbered.

A crate often declares an item in an inner module and hands it on from an outer one.
-/

namespace Oxidize.Stub

def reservedWords : List String :=
  ["False", "None", "True", "and", "as", "assert", "async", "await", "break", "class", "continue",
   "def", "del", "elif", "else", "except", "finally", "for", "from", "global", "if", "import", "in",
   "is", "lambda", "nonlocal", "not", "or", "pass", "raise", "return", "try", "while", "with",
   "yield"]

def isUsableName (name : String) : Bool :=
  !reservedWords.contains name && Text.isIdentifier name

def safeName (name : String) : String :=
  if reservedWords.contains name then s!"{name}_" else name

/-- Number the names that were seen before: the table says which number comes next. -/
def numberRepeats (seen : Table Nat) : List String → List String
  | [] => []
  | name :: rest =>
    match seen.get? name with
    | some n => s!"{name}{n}" :: numberRepeats (seen.set name (n + 1)) rest
    | none => name :: numberRepeats (seen.set name 1) rest

def paramNames (names : List String) : List String :=
  numberRepeats [] (names.map safeName)

def isCapital (c : Char) : Bool :=
  'A' ≤ c && c ≤ 'Z'

def isSmall (c : Char) : Bool :=
  'a' ≤ c && c ≤ 'z'

/-- Divide before each capital letter that small letters follow. In a run of small letters after
such a capital no further division begins. -/
def divideWords (inWord : Bool) : List Char → List Char
  | c :: d :: e :: rest =>
    if inWord && isSmall c then c :: divideWords true (d :: e :: rest)
    else if c != '\n' && isCapital d && isSmall e then c :: '_' :: d :: e :: divideWords true rest
    else c :: divideWords false (d :: e :: rest)
  | c :: rest => c :: divideWords false rest
  | [] => []

def divideCapitals : List Char → List Char
  | c :: d :: rest =>
    if (isSmall c || ('0' ≤ c && c ≤ '9')) && isCapital d then
      c :: '_' :: divideCapitals (d :: rest)
    else c :: divideCapitals (d :: rest)
  | cs => cs

def snakeCase (name : String) : String :=
  Text.lower (String.ofList (divideCapitals (divideWords false name.toList)))

def crateIdent (crate : String) : String :=
  Text.replaceAll crate "-" "_"

def moduleName (crate : String) : String :=
  let ident := crateIdent crate
  s!"spicycrab_{ident}"

def docText (doc : String) : String :=
  Text.replaceAll doc "\\" "\\\\"

def innerModules : List String :=
  ["builder", "builders", "parser", "parsers", "matches", "matcher", "internal", "private",
   "detail", "details", "impl", "impls", "core", "util", "utils", "helper", "helpers", "common",
   "types", "primitives",
   "alg", "algorithm", "algorithms", "direct", "enc", "encoding", "dec", "decoding", "ser", "de",
   "fmt", "format", "io", "net", "sync", "async_impl", "blocking", "runtime", "error", "errors",
   "result",
   "command", "arg",
   "response", "request", "client", "wasm",
   "config", "file", "value", "source",
   "naive", "datetime", "date", "time", "local", "utc", "offset", "duration", "weekday", "month",
   "fixed",
   "log_impl", "logger", "logging",
   "block_api",
   "webpki", "anchors", "verify", "server_conn", "client_conn", "conn", "tls12", "tls13",
   "ciphersuites", "suites",
   "imp", "schannel", "security_framework", "openssl"]

/-- Is the module an inner one for an item whose name in small words is `item`? -/
def isInnerModule (module item : String) : Bool :=
  innerModules.contains module ||
    (module == item && Text.contains item "_") ||
    (Text.endsWith item s!"_{module}" && item.length ≤ 2 * module.length)

/-- Drop the last part as long as it repeats the one before. The parts are given last first. -/
def dropRepeats : List String → List String
  | a :: b :: rest => if a == b then dropRepeats (b :: rest) else a :: b :: rest
  | parts => parts

def publicParts (parts : List String) (item : String) : List String :=
  ((dropRepeats parts.reverse).dropWhile (isInnerModule · item)).reverse

def publicPath (path item : String) : String :=
  if path == "" then ""
  else Text.join "::" (publicParts (Text.splitOn path "::") (snakeCase item))

abbrev Noting (α : Type) := StateM Log α

def notedPath (path item : String) : Noting String := do
  let short := publicPath path item
  if path != "" && short != path then
    modify fun log => (log.decide "module_path_stripped"
      [("original", .str path), ("result", .str short), ("type_name", .str item)]).count
        "module_paths_stripped"
  return short

def itemPath (crate module item : String) : String :=
  if module == "" then s!"{crate}::{item}" else s!"{crate}::{module}::{item}"

end Oxidize.Stub
