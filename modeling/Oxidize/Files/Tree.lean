import Oxidize.Data.Value

/-!
# A tree of files

The files and directories that a command works on. A path is a text with its components separated by
slashes; in a pattern of paths a star stands for any characters and a question mark for one.

The members of an archive are files with their paths, which are used as they stand: a path may lead
out of the directory that the archive is unpacked in.
-/

namespace Oxidize.Path

/-! ## Paths -/

def components (path : String) : List String :=
  (Text.splitOn path "/").filter fun part => part != "" && part != "."

/-- The slash or slashes at the beginning of an absolute path: exactly two are kept, any other
number counts as one. -/
def root (path : String) : String :=
  if Text.startsWith path "//" && !Text.startsWith path "///" then "//"
  else if Text.startsWith path "/" then "/"
  else ""

def build (root : String) (parts : List String) : String :=
  let path := root ++ Text.join "/" parts
  if path == "" then "." else path

def normal (path : String) : String :=
  build (root path) (components path)

def name (path : String) : String :=
  ((components path).getLast?).getD ""

/-- The last component, divided before its last dot. A dot at the beginning or at the end divides
nothing. -/
def nameParts (path : String) : String × String :=
  let name := name path
  match Text.cutLast? name "." with
  | some (stem, ending) =>
    if stem == "" || ending == "" then (name, "") else (stem, s!".{ending}")
  | none => (name, "")

def stem (path : String) : String :=
  (nameParts path).1

def parent (path : String) : String :=
  build (root path) (components path).dropLast

/-- The path `below` taken from the directory `base`, unless it is absolute. -/
def join (base below : String) : String :=
  if root below != "" then normal below
  else build (root base) (components base ++ components below)

/-- The place above a place. Above the top of an absolute path there is nothing else. -/
def above (place : String) : String :=
  match (components place).getLast? with
  | none => if root place == "" then ".." else place
  | some last => if last == ".." then join place ".." else parent place

/-- Where a component leads from a place. A single dot stays there. -/
def step (place part : String) : String :=
  if part == ".." then above place else join place part

/-- The components of a path as they stand, single dots included. A slash at the end counts as a
dot: what it follows has to be a directory. -/
def steps (path : String) : List String :=
  ((Text.splitOn path "/").filter (· != "")) ++ if Text.endsWith path "/" then ["."] else []

def start (path : String) : String :=
  build (root path) []

/-- The path with each component `..` carried out as far as the path allows. -/
def resolved (path : String) : String :=
  (components path).foldl step (start path)

/-- What `path` is from the directory `base`, if it lies strictly below; both are resolved. -/
def below? (base path : String) : Option String :=
  if base == "." then
    if path == "." || root path != "" || (components path).head? == some ".." then none
    else some path
  else Text.dropStart? path (if Text.endsWith base "/" then base else s!"{base}/")

end Oxidize.Path

/-! ## Trees -/

namespace Oxidize

/-- Why a file or directory cannot be used as asked. -/
inductive FileFault where
  /-- There is no such file, or no such directory on the way to it. -/
  | missing (path : String)
  | occupied (path : String)
  | notDirectory (path : String)
  | isDirectory (path : String)
  deriving BEq

def FileFault.text (f : FileFault) : String :=
  let (what, path) := match f with
    | missing path => ("[Errno 2] No such file or directory", path)
    | occupied path => ("[Errno 17] File exists", path)
    | notDirectory path => ("[Errno 20] Not a directory", path)
    | isDirectory path => ("[Errno 21] Is a directory", path)
  let path := Text.quoted path
  s!"{what}: {path}"

/-- A file: its text and, if the text was read beforehand, what it says. -/
structure File where
  text : String
  /-- The syntax tree of a program, or the content of a configuration. -/
  content? : Option Value := none

structure Tree where
  files : Table File := []
  directories : List String := []

namespace Tree

/-! ## Places -/

def holdsFile (t : Tree) (place : String) : Bool :=
  t.files.has place

def holdsDirectory (t : Tree) (place : String) : Bool :=
  (Path.components place).all (· == "..") || t.directories.contains place

/-- Where a component leads from a place, which has to be a directory. The fault names `path`. -/
def enter (t : Tree) (path place part : String) : Except FileFault String :=
  if t.holdsDirectory place then .ok (Path.step place part)
  else if t.holdsFile place then .error (.notDirectory path)
  else .error (.missing path)

/-- The place that a path leads to; what is there is left open. The empty path leads nowhere. -/
def follow (t : Tree) (path : String) : Except FileFault String :=
  if path == "" then .error (.missing path)
  else (Path.steps path).foldlM (t.enter path) (Path.start path)

def follow? (t : Tree) (path : String) : Option String :=
  (t.follow path).toOption

/-! ## Looking -/

def file? (t : Tree) (path : String) : Option File :=
  (t.follow? path).bind t.files.get?

def isFile (t : Tree) (path : String) : Bool :=
  (t.file? path).isSome

def isDirectory (t : Tree) (path : String) : Bool :=
  (t.follow? path).any t.holdsDirectory

def has (t : Tree) (path : String) : Bool :=
  t.isFile path || t.isDirectory path

def below (t : Tree) (directory : String) : List String :=
  match t.follow? directory with
  | some place => (t.files.keys ++ t.directories).filterMap (Path.below? place)
  | none => []

def names (t : Tree) (directory : String) : List String :=
  NameSet.sorted (NameSet.ofList ((t.below directory).map fun path => Text.before path "/"))

def read (t : Tree) (path : String) : Except FileFault File := do
  let place ← t.follow path
  match t.files.get? place with
  | some file => return file
  | none => throw (if t.holdsDirectory place then .isDirectory path else .missing path)

/-! ## Removing -/

def remove (t : Tree) (path : String) : Tree :=
  { t with files := t.files.filter fun (place, _) => some place != t.follow? path }

def removeDirectory (t : Tree) (path : String) : Tree :=
  match t.follow? path with
  | none => t
  | some place =>
    { files := t.files.filter fun (p, _) => (Path.below? place p).isNone
      directories := t.directories.filter fun p => p != place && (Path.below? place p).isNone }

end Tree

end Oxidize

/-! ## Searching -/

namespace Oxidize.Text

inductive CharPattern where
  | any
  | only (c : Char)
  | oneOf (isNegated : Bool) (ranges : List (Char × Char))

def CharPattern.accepts (p : CharPattern) (c : Char) : Bool :=
  match p with
  | any => true
  | only d => c == d
  | oneOf isNegated ranges =>
    let isIn := ranges.any fun (first, last) => decide (first ≤ c) && decide (c ≤ last)
    isIn != isNegated

inductive GlobPart where
  | many
  | one (p : CharPattern)

abbrev Glob := List GlobPart

namespace Glob

def isWild (text : String) : Bool :=
  text.toList.any fun c => c == '*' || c == '?' || c == '['

def rangesOf : List Char → List (Char × Char)
  | first :: '-' :: last :: rest => (first, last) :: rangesOf rest
  | c :: rest => (c, c) :: rangesOf rest
  | [] => []

def spanSet? (cs : List Char) : Option (List Char × List Char) :=
  let (front, rest) := match cs with
    | ']' :: rest => ([']'], rest)
    | _ => ([], cs)
  match rest.dropWhile (· != ']') with
  | _ :: after => some (front ++ rest.takeWhile (· != ']'), after)
  | [] => none

/-- Read what follows an opening bracket: the set and what comes after it, if it is one. -/
def readSet? : List Char → Option (CharPattern × List Char)
  | '!' :: cs => (spanSet? cs).map fun (content, after) => (.oneOf true (rangesOf content), after)
  | cs => (spanSet? cs).map fun (content, after) => (.oneOf false (rangesOf content), after)

def readChars : Nat → List Char → Glob
  | 0, _ => []
  | _, [] => []
  | fuel + 1, c :: cs =>
    if c == '*' then .many :: readChars fuel cs
    else if c == '?' then .one .any :: readChars fuel cs
    else if c == '[' then
      match readSet? cs with
      | some (set, after) => .one set :: readChars fuel after
      | none => .one (.only '[') :: readChars fuel cs
    else .one (.only c) :: readChars fuel cs

def ofText (text : String) : Glob :=
  readChars text.length text.toList

def someEnd (p : List Char → Bool) : List Char → Bool
  | [] => p []
  | c :: cs => p (c :: cs) || someEnd p cs

def fits : Glob → List Char → Bool
  | [], cs => cs.isEmpty
  | .many :: parts, cs => someEnd (fits parts) cs
  | .one p :: parts, cs =>
    match cs with
    | [] => false
    | c :: rest => p.accepts c && fits parts rest

def accepts (pattern : Glob) (name : String) : Bool :=
  fits pattern name.toList

end Glob

end Oxidize.Text

namespace Oxidize

open Text (Glob)

inductive PathPart where
  | named (name : String)
  | like (pattern : Glob)
  | anyDepth

abbrev PathPattern := List PathPart

/-- Why a text is no pattern of paths. -/
inductive PatternFault where
  | absolute
  /-- Two stars stand beside other characters, or the pattern is empty. -/
  | malformed

namespace PathPattern

def readPart (text : String) : Except PatternFault PathPart :=
  if text == "**" then .ok .anyDepth
  else if Text.contains text "**" then .error .malformed
  else if Glob.isWild text then .ok (.like (.ofText text))
  else .ok (.named text)

def read (text : String) : Except PatternFault PathPattern :=
  if text == "" then .error .malformed
  else if Path.root text != "" then .error .absolute
  else (Path.components text).mapM readPart

end PathPattern

namespace Tree

def directoriesFrom (t : Tree) (directory : String) : List String :=
  directory :: ((NameSet.sorted (t.below directory)).map (Path.join directory)).filter t.isDirectory

def search (t : Tree) : PathPattern → String → List String
  | [], path => [path]
  | part :: rest, directory =>
    let goesOn (path : String) : Bool := if rest.isEmpty then t.has path else t.isDirectory path
    match part with
    | .named name =>
      let path := Path.join directory name
      if goesOn path then search t rest path else []
    | .like pattern =>
      let names := (t.names directory).filter (Glob.accepts pattern)
      ((names.map (Path.join directory)).filter goesOn).flatMap (search t rest)
    | .anyDepth => NameSet.ofList ((t.directoriesFrom directory).flatMap (search t rest))

end Tree

/-! ## Making directories and writing files -/

abbrev Filing (α : Type) := ExceptT FileFault (StateM Tree) α

namespace Filing

def look {α : Type} (f : Tree → α) : Filing α :=
  return f (← get)

def orFault {α : Type} : Except FileFault α → Filing α
  | .ok a => return a
  | .error fault => throw fault

def place (path : String) : Filing String := do
  orFault (← look (·.follow path))

/-- Make a directory where nothing is, in a directory that is there. -/
def make (path : String) : Filing Unit := do
  let place ← place path
  let t ← get
  if t.holdsFile place || t.holdsDirectory place then throw (.occupied path)
  set { t with directories := t.directories ++ [place] }

def makeIfAbsent (path : String) : Filing Unit := do
  try make path
  catch fault => if !(← look (·.isDirectory path)) then throw fault

/-- Make the directory with the given components, last first, and those above it that are
missing. -/
def makeBelow (root : String) : List String → Filing Unit
  | [] => pure ()
  | part :: above => do
    let path := Path.build root (part :: above).reverse
    try makeIfAbsent path
    catch
      | .missing _ =>
        makeBelow root above
        makeIfAbsent path
      | fault => throw fault

/-- Make a directory, and those above it, unless they are there. -/
def makeAll (path : String) : Filing Unit :=
  makeBelow (Path.root path) (Path.components path).reverse

def writeFile (path : String) (file : File) : Filing Unit := do
  let place ← place path
  let t ← get
  if t.holdsDirectory place then throw (.isDirectory path)
  set { t with files := t.files.set place file }

def write (path text : String) : Filing Unit :=
  writeFile path { text }

def put (path : String) (file : File) : Filing Unit := do
  makeAll (Path.parent path)
  writeFile path file

end Filing

def Tree.after {α : Type} (t : Tree) (steps : Filing α) : Tree :=
  (steps.run.run t).2

end Oxidize

namespace Oxidize.Archive

/-- The path of a member below a directory; one that is absolute stays as it is. -/
def memberPath (directory name : String) : String :=
  let path := if Text.startsWith name "/" then name else s!"{directory}/{name}"
  Text.trimEndWhile path (· == '/')

def textOf (segments : List String) : String :=
  Text.join "/" segments.reverse

/-- The path above the last segment, without slashes at its end. Segments are given last first. -/
def textAbove (segments : List String) : String :=
  let path := textOf segments
  let short := Text.trimEndWhile path (· == '/')
  if short == "" && !segments.isEmpty then s!"{path}/" else short

/-- Make a directory that is missing, and before it those above it that are. A dot at the end makes
nothing more. Segments are given last first. -/
def makeMissing : List String → Filing Unit
  | [] => pure ()
  | "" :: above => makeMissing above
  | part :: above => do
    let parent := textAbove above
    let needsParent := parent != "" && !(← Filing.look (·.has parent))
    if needsParent then
      try makeMissing above
      catch
        | .occupied _ => pure ()
        | fault => throw fault
    if !(needsParent && part == ".") then Filing.make (textOf (part :: above))

def unpackMember (directory name text : String) : Filing Unit := do
  let path := memberPath directory name
  let above := (Text.splitOn path "/").reverse.tail
  let parent := textAbove above
  if parent != "" && !(← Filing.look (·.has parent)) then makeMissing above
  Filing.write path text

def unpack (directory : String) (members : Table String) : Filing Unit :=
  members.forM fun (name, text) => unpackMember directory name text

end Oxidize.Archive
