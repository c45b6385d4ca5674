import Oxidize.Library.Mapping
import Oxidize.Literal

/-!
# Filling in templates

A template holds placeholders in braces: `self` for the receiver, `args` for all arguments, `arg0`,
`arg1`, … for single ones, and `&arg0`, … for an argument that is passed as borrowed text. An
argument is written owned: a text literal, for instance, ends in `.to_string()`.

Texts and byte strings keep their characters, with quotes and backslashes escaped; a byte string
that is not ASCII is written as its bytes.
-/

namespace Oxidize.Template

def hole (name : String) : String :=
  "\x7b" ++ name ++ "\x7d"

def fill (template name value : String) : String :=
  Text.replaceAll template (hole name) value

def has (template name : String) : Bool :=
  Text.contains template (hole name)

def ownedSuffix : String := ".to_string()"

/-- A text without the ending that makes owned text of it. -/
def borrowed (arg : String) : String :=
  Text.dropSuffix arg ownedSuffix

/-- An argument passed as borrowed text: a literal loses its ending, anything else is borrowed. -/
def borrow (arg : String) : String :=
  (Text.dropSuffix? arg ownedSuffix).getD s!"&{arg}"

def fillNumbered (template : String) (args : List String) : String :=
  args.zipIdx.foldl (fun code (arg, i) => fill code s!"arg{i}" arg) template

def fillBorrowed (template : String) (args : List String) : String :=
  args.zipIdx.foldl (fun code (arg, i) => fill code s!"&arg{i}" (borrowed arg)) template

/-- Write all arguments for the placeholder of all arguments if there is one, else each argument
for its own placeholder. -/
def fillArgs (template : String) (args : List String) : String :=
  if has template "args" then fill template "args" (Text.commas args)
  else fillNumbered template args

def hasNumbered (template : String) : Bool :=
  has template "arg0" || has template "arg1" || has template "&arg0" || has template "&arg1"

def fillCall (template : String) (args : List String) : String :=
  if has template "args" then fill template "args" (Text.commas args)
  else if hasNumbered template then fillNumbered (fillBorrowed template args) args
  else template

/-- Put a character in front of the runs: into the first one if both are of words. -/
def consRun (c : Char) : List (List Char) → List (List Char)
  | (d :: run) :: runs =>
    if Text.isWordChar c && Text.isWordChar d then (c :: d :: run) :: runs
    else [c] :: (d :: run) :: runs
  | runs => [c] :: runs

def wordRuns : List Char → List (List Char)
  | [] => []
  | c :: cs => consRun c (wordRuns cs)

def isWord (run : List Char) : Bool :=
  !run.isEmpty && run.all Text.isWordChar

/-- Write an underscore for the hyphen in every `word-word::`, which is how the name of a crate is
spelled in a path. -/
def joinHyphens : List (List Char) → List Char
  | first :: ['-'] :: second :: [':'] :: [':'] :: rest =>
    if isWord first && isWord second then
      first ++ '_' :: second ++ ':' :: ':' :: joinHyphens rest
    else first ++ joinHyphens (['-'] :: second :: [':'] :: [':'] :: rest)
  | run :: rest => run ++ joinHyphens rest
  | [] => []

def crateIdents (template : String) : String :=
  String.ofList (joinHyphens (wordRuns template.toList))

end Oxidize.Template

/-! ## Passing arguments to typed parameters -/

namespace Oxidize.Argument

structure Passed where
  code : String
  mutVar : Option String := none
  deriving DecidableEq

def optionContent? (type : List Char) : Option (List Char) :=
  if "Option<".toList.isPrefixOf type && ">".toList.isSuffixOf type then
    some (Text.dropEndWhile Text.isBlank (((type.drop 7).dropLast).dropWhile Text.isBlank))
  else none

theorem length_optionContent?_lt {type inner : List Char} (h : optionContent? type = some inner) :
    inner.length < type.length := by
  unfold optionContent? at h
  split at h
  · rename_i hc
    simp only [Option.some.injEq] at h
    subst h
    have hp : "Option<".toList <+: type := by
      simp only [Bool.and_eq_true, List.isPrefixOf_iff_prefix] at hc
      exact hc.1
    have hlen : 7 ≤ type.length := by simpa using hp.length_le
    have h1 := Text.length_dropEndWhile_le Text.isBlank
      (((type.drop 7).dropLast).dropWhile Text.isBlank)
    have h2 := (List.dropWhile_suffix (l := (type.drop 7).dropLast) Text.isBlank).length_le
    simp only [List.length_dropLast, List.length_drop] at h2
    omega
  · simp at h

/-- Every owned text literal of a list written as borrowed text: `"x".to_string()` as `"x"`. A
quote that begins no such literal is kept. -/
def borrowLiterals : List Char → List Char
  | [] => []
  | c :: cs =>
    if c == '"' then
      let content := cs.takeWhile (· != '"')
      let rest := cs.drop content.length
      let ending := '"' :: Template.ownedSuffix.toList
      if ending.isPrefixOf rest then
        '"' :: content ++ '"' :: borrowLiterals (rest.drop ending.length)
      else '"' :: borrowLiterals cs
    else c :: borrowLiterals cs
termination_by cs => cs.length
decreasing_by
  all_goals
    simp only [List.length_cons, List.length_drop]
    omega

def takesChar (type : String) : Bool :=
  type == "char" || Text.contains type "char>" || Text.contains type "<char"

def charLiteral? (arg : String) : Option String :=
  if Text.startsWith arg "\"" && Text.endsWith arg Template.ownedSuffix then
    match (arg.toList.take (arg.toList.length - 13)).drop 1 with
    | [c] => some (String.ofList ['\'', c, '\''])
    | _ => none
  else if Text.startsWith arg "'" && Text.endsWith arg "'" then some arg
  else none

def takesBorrowedText (type : String) : Bool :=
  Text.contains type "&str" || type == "&'static str" || type == "&'staticstr" ||
    (Text.startsWith type "&" && type.toList.length ≤ 3)

/-- Does the parameter take whatever converts into a type whose name ends in `name`? -/
def takesInto (type name : String) : Bool :=
  Text.contains type (name ++ ">") || Text.endsWith type name

def takesOwnedText (type : String) : Bool :=
  type == "String" || Text.contains type "Into<String>"

def passPlain (arg type : String) : Passed :=
  let owned := Text.dropSuffix? arg Template.ownedSuffix
  let asChar := if takesChar type then charLiteral? arg else none
  let asText :=
    if takesBorrowedText type then
      owned <|> (if Text.isIdentifier arg then some s!"&{arg}" else none)
    else none
  let asStr := if takesInto type "Str" then owned else none
  let asId :=
    if takesInto type "Id" then
      owned <|> (if Text.startsWith arg "vec![" then
        some (String.ofList (borrowLiterals arg.toList)) else none)
    else none
  let asOwned :=
    if takesOwnedText type && Text.startsWith arg "self." &&
        !(Text.endsWith arg ".clone()" || Text.endsWith arg Template.ownedSuffix) then
      some s!"{arg}.clone()"
    else none
  match asChar <|> asText <|> asStr <|> asId <|> asOwned with
  | some code => { code }
  | none =>
    let isBorrowed := Text.startsWith arg "&"
    if Text.contains type "&dyn" then { code := if isBorrowed then arg else s!"&{arg}" }
    else if Text.startsWith type "&" && !isBorrowed then
      if Text.startsWith type "&mut " then
        { code := s!"&mut {arg}", mutVar := if Text.isIdentifier arg then some arg else none }
      else { code := s!"&{arg}" }
    else { code := arg }

/-- An argument as it is passed to a parameter of the given type. What is passed to an optional
parameter is wrapped, unless it is wrapped already. -/
def passChars (arg : String) (type : List Char) : Passed :=
  match _h : optionContent? type with
  | some inner =>
    if arg == "None" || Text.startsWith arg "Some(" then { code := arg }
    else
      let passed := passChars arg inner
      { passed with code := s!"Some({passed.code})" }
  | none => passPlain arg (String.ofList type)
termination_by type.length
decreasing_by exact length_optionContent?_lt ‹_›

def pass (arg type : String) : Passed :=
  passChars arg type.toList

end Oxidize.Argument

/-! ## Constructors of dates and times -/

namespace Oxidize.Calendar

def spanUnits : List String :=
  ["weeks", "days", "hours", "minutes", "seconds", "milliseconds", "microseconds"]

/-- The parts of a moment with their defaults, in the order of positional arguments. -/
def momentDefaults : Table String :=
  [("year", "0"), ("month", "1"), ("day", "1"), ("hour", "0"), ("minute", "0"), ("second", "0"),
   ("microsecond", "0")]

/-- The parts of a span with their defaults, in the order of positional arguments. -/
def spanDefaults : Table String :=
  [("days", "0"), ("seconds", "0"), ("microseconds", "0"), ("milliseconds", "0"),
   ("minutes", "0"), ("hours", "0"), ("weeks", "0")]

/-- The parts, with the positional arguments in place of the defaults and the named ones in place
of both. -/
def parts (defaults : Table String) (args : List String) (named : Table String) : Table String :=
  ((defaults.keys.zip args).foldl (fun t (key, arg) => t.set key arg) defaults).update named

def spanOf (unit amount : String) : String :=
  s!"chrono::Duration::{unit}({amount})"

def spanSum (given : Table String) : String :=
  let terms := spanUnits.filterMap fun unit =>
    match given.get? unit with
    | some amount => if amount == "0" then none else some (spanOf unit amount)
    | none => none
  if terms.isEmpty then "chrono::Duration::zero()" else Text.join " + " terms

def fillParts (template : String) (given : Table String) : String :=
  given.foldl (fun code (key, value) => Template.fill code key value) template

def construct (m : Mapping) (template : String) (args : List String) (named : Table String) :
    String :=
  let ofCalendar := m.module == .str "datetime"
  if m.func == .str "date" && ofCalendar then
    if args.length == 3 then Template.fill template "args" (Text.commas args) else template
  else if m.func == .str "time" && ofCalendar then
    Template.fill template "args" (Text.commas (args ++ List.replicate (4 - args.length) "0"))
  else if m.func == .str "datetime" && Template.has template "year" then
    fillParts template (parts momentDefaults args named)
  else if m.func == .str "timedelta" then
    spanSum (parts spanDefaults args named)
  else Template.fill template "args" (Text.commas args)

end Oxidize.Calendar

/-! ## Literals of the target language -/

namespace Oxidize.Emit

def escapeQuotes (s : String) : String :=
  Text.replaceAll (Text.replaceAll s "\\" "\\\\") "\"" "\\\""

def escapeFormat (s : String) : String :=
  Text.replaceAll (Text.replaceAll (escapeQuotes s) "\x7b" "\x7b\x7b") "\x7d" "\x7d\x7d"

/-- A number with a fraction: it has a point or an exponent. -/
def floatText (text : String) : String :=
  if Text.contains text "." || Text.contains (Text.lowerAscii text) "e" then text
  else text ++ ".0"

def bytesText (bytes : List UInt8) : String :=
  if bytes.all (· < 0x80) then
    let text := String.ofList (bytes.map fun b => Char.ofNat b.toNat)
    s!"b\"{escapeQuotes text}\""
  else
    let items := bytes.map fun b => "0x" ++ String.ofList (Text.hexDigits b.toNat 2)
    s!"[{Text.commas items}]"

def literalText : Literal → String
  | .none => "None"
  | .bool true => "true"
  | .bool false => "false"
  | .str s => s!"\"{escapeQuotes s}\".to_string()"
  | .int i => toString i
  | .float text => floatText text
  | .bytes b => bytesText b
  | l => l.source

/-- The characters of a format specification that only name the kind of value. -/
def kindMarks : List Char :=
  ['f', 'F', 'd', 's', 'g', 'G', 'n']

/-- A format specification of the target language: the mark for the kind of value is dropped,
since the value itself decides it. -/
def formatSpec (spec : String) : String :=
  match spec.toList.getLast? with
  | some c => if kindMarks.contains c then Text.dropEnd spec 1 else spec
  | none => spec

def formatHole (spec : String) : String :=
  let target := formatSpec spec
  if target == "" then "\x7b\x7d" else "\x7b:" ++ target ++ "\x7d"

def intTypes : List String :=
  ["usize", "isize", "u8", "u16", "u32", "u64", "u128", "i8", "i16", "i32", "i64", "i128"]

/-- The receiver of a written length, with or without a conversion to an integer type. -/
def lengthReceiver? (code : String) : Option String :=
  let core := (intTypes.findSome? fun t => Text.dropSuffix? code s!" as {t}").getD code
  Text.dropSuffix? core ".len()"

end Oxidize.Emit
