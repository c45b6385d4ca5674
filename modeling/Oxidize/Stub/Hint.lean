import Oxidize.Table
import Oxidize.Text.CharClass

/-!
# Type hints for Rust types

Numbers, texts, options, lists and tables have hints of their own, references and boxes have the
hint of what they hold, a result has the hint of its value, and a path has the hint of its last
part.

Calls that can fail are told from the others by the type of their result, and a chain of calls is
followed through the name of the type that a call gives.
-/

namespace Oxidize.Stub

/-! ## Types without lifetimes, mutability and trait bounds -/

def anyHint : String := "object"

inductive LifetimeState where
  | outside
  | name
  | blanks
  deriving BEq

/-- Take out each lifetime: the quote, the name after it and the blanks after that. -/
def dropLifetimes (state : LifetimeState) : List Char → List Char
  | [] => []
  | c :: cs =>
    if c == '\'' then dropLifetimes .name cs
    else if state == .name && Text.isWordChar c then dropLifetimes .name cs
    else if state != .outside && Text.isBlank c then dropLifetimes .blanks cs
    else c :: dropLifetimes .outside cs

/-- Take out the word `mut` before a character that `before` accepts. The word begins where no
character of a word precedes; with `eating`, the blanks at the present place go too. -/
def dropMut (before : Char → Bool) (inWord eating : Bool) : List Char → List Char
  | 'm' :: 'u' :: 't' :: c :: cs =>
    if !inWord && before c then dropMut before false (Text.isBlank c) (c :: cs)
    else 'm' :: dropMut before true false ('u' :: 't' :: c :: cs)
  | c :: cs =>
    if eating && Text.isBlank c then dropMut before false true cs
    else c :: dropMut before (Text.isWordChar c) false cs
  | [] => []

/-- Take out the word `mut` before blanks, with them, and before a capital letter or a
parenthesis. -/
def withoutMut (cs : List Char) : List Char :=
  let cs := dropMut Text.isBlank false false cs
  let cs := dropMut (fun c => 'A' ≤ c && c ≤ 'Z') false false cs
  dropMut (· == '(') false false cs

def closesWith? (close : Char) (cs : List Char) : Option Nat :=
  let blanks := cs.takeWhile Text.isBlank
  if (cs.drop blanks.length).head? == some close then some (blanks.length + 1) else none

/-- Take out each pair of angle brackets with nothing but blanks between them. The first `skip`
characters belong to a pair that was taken out. -/
def dropEmptyBrackets (skip : Nat) : List Char → List Char
  | [] => []
  | c :: cs =>
    match skip with
    | n + 1 => dropEmptyBrackets n cs
    | 0 =>
      if c == '<' then
        match closesWith? '>' cs with
        | some n => dropEmptyBrackets n cs
        | none => c :: dropEmptyBrackets 0 cs
      else c :: dropEmptyBrackets 0 cs

/-- Is there an opening bracket with nothing but blanks before a comma? -/
def opensWithComma : List Char → Bool
  | [] => false
  | c :: cs => (c == '<' && (closesWith? ',' cs).isSome) || opensWithComma cs

def droppedPaths : List String :=
  ["std::ops::", "std::fmt::", "std::marker::", "core::ops::", "core::fmt::"]

def inexpressibleTypes : List String :=
  ["Bound<", "RangeFull", "Range<", "RangeInclusive<", "RangeTo<", "RangeFrom<",
   "RangeToInclusive<", "Formatter<", "Arguments<", "PhantomData<"]

def countOf (c : Char) (s : String) : Nat :=
  s.toList.count c

/-- Is the text one that no hint can express, before anything is taken out of it? -/
def isInexpressible (type : String) : Bool :=
  let has := Text.contains type
  let parenthesised := Text.startsWith type "("
  has "!" ||
    (parenthesised && (has "dyn" || has "," || countOf '(' type != countOf ')' type)) ||
    has "<&" || has "< &" || has "<Self>" || has "< Self>" || has "<Self," ||
    has "[" || has "]"

def isUnit (type : String) : Bool :=
  type == "()" || type == "Result<()>" || type == "Result< ()>"

/-- The type without lifetimes, trait bounds, mutability and dynamic dispatch. -/
def withoutMarks (type : String) : String :=
  let type := String.ofList (dropLifetimes .outside type.toList)
  let type := Text.replaceAll type "dyn " ""
  let type :=
    if Text.contains type "+" && !Text.startsWith type "Option" && !Text.startsWith type "Result"
    then Text.trim (Text.before type "+")
    else type
  String.ofList (withoutMut type.toList)

/-- The type without empty brackets and with single blanks, if a hint can express it. -/
def tidied? (type : String) : Option String :=
  if Text.contains (Text.lowerAscii type) "impl" || Text.startsWith type "*" then none
  else
    let type := String.ofList (dropEmptyBrackets 0 type.toList)
    if opensWithComma type.toList || (Text.contains type ">" && !Text.contains type "<") then none
    else
      let type := Text.join " " (Text.words type)
      if ["", "()", "(,)"].contains type then none else some type

def plainType (type : String) : String :=
  if isInexpressible type then anyHint
  else if isUnit type then "None"
  else if Text.contains type "<()>" || Text.contains type "< ()>" then anyHint
  else
    let type := droppedPaths.foldl (fun t path => Text.replaceAll t path "") type
    if inexpressibleTypes.any (Text.startsWith type ·) then anyHint
    else (tidied? (withoutMarks type)).getD anyHint

/-! ## Hints -/

def simpleHints : Table String :=
  [("i8", "int"), ("i16", "int"), ("i32", "int"), ("i64", "int"), ("i128", "int"),
   ("isize", "int"), ("u8", "int"), ("u16", "int"), ("u32", "int"), ("u64", "int"),
   ("u128", "int"), ("usize", "int"), ("f32", "float"), ("f64", "float"), ("bool", "bool"),
   ("char", "str"), ("String", "str"), ("&str", "str"), ("&'staticstr", "str"), ("()", "None")]

/-- The text between `head<` and the closing bracket at the end of a type. -/
def argumentOf? (type head : String) : Option String :=
  let start := s!"{head}<"
  if Text.startsWith type start && Text.endsWith type ">" then
    some (Text.dropEnd (Text.drop type start.length) 1)
  else none

/-- The hint of a type that is a name without path and without known arguments. -/
def nameHint (type : String) : String :=
  if ["StdError", "Error", "std::error::Error"].contains type then "Exception"
  else if Text.contains type "<" || Text.contains type ">" then anyHint
  else type

inductive HintForm where
  /-- A hint that needs no further look. -/
  | done (hint : String)
  | same (type : String)
  | optional (type : String)
  | listOf (type : String)
  | tableOf (key value : String)

def pathForm (type : String) : HintForm :=
  match Text.Nesting.firstSeparator 0 type.toList with
  | .outside | .missing 0 =>
    match Text.Nesting.afterLastSeparator? 0 type.toList with
    | some name => .same (String.ofList name)
    | none => .done (nameHint type)
  | _ => .done anyHint

def hintForm (type : String) : HintForm :=
  if type == anyHint then .done anyHint
  else if let some hint := simpleHints.get? type then .done hint
  else if Text.startsWith type "&" then .same (Text.trim (Text.drop type 1))
  else if let some inner := argumentOf? type "Option" then .optional inner
  else if let some inner := argumentOf? type "Result" then
    match Text.Nesting.cutComma? 0 inner.toList with
    | some (value, _) => .same (String.ofList value)
    | none => .same inner
  else if let some inner := argumentOf? type "Vec" then .listOf inner
  else if let some inner := argumentOf? type "HashMap" then
    match Text.Nesting.cutComma? 0 inner.toList with
    | some (key, value) =>
      .tableOf (Text.trim (String.ofList key)) (Text.trim (String.ofList value))
    | none => .done "dict"
  else if let some inner := argumentOf? type "Box" then .same inner
  else if Text.startsWith type "Box<" && Text.contains type "dyn" then .done anyHint
  else if Text.contains type "::" then pathForm type
  else .done (nameHint type)

/-- The hint that a form stands for, where `inner` gives the hints of the types in it. -/
def HintForm.text (inner : String → String) : HintForm → String
  | done hint => hint
  | same type => inner type
  | optional type => inner type ++ " | None"
  | listOf type => "list[" ++ inner type ++ "]"
  | tableOf key value => "dict[" ++ inner key ++ ", " ++ inner value ++ "]"

/-- The hint of a type, found in at most `fuel` steps inward. -/
def hintWithin : Nat → String → String
  | 0, _ => anyHint
  | fuel + 1, type => (hintForm (plainType (Text.trim type))).text (hintWithin fuel)

/-- The type hint for a Rust type. Each step inward is to a shorter text, so its length is enough
steps. -/
def hint (type : String) : String :=
  hintWithin (type.length + 1) type

/-! ## What a function returns -/

def isResult (type : String) : Bool :=
  let type := Text.trim type
  Text.startsWith type "Result<" || Text.startsWith type "Result " ||
    Text.contains type "::Result<" || Text.contains type "::Result " ||
    Text.endsWith type "::Result" || type == "Result"

def behindReference (type : String) : String :=
  match Text.dropStart? type "&" with
  | some inner =>
    let inner := Text.trim inner
    match Text.dropStart? inner "mut " with
    | some inner => Text.trim inner
    | none => inner
  | none => type

/-- Does the type begin with `head<`, or hold it after a path? -/
def hasHead (type head : String) : Bool :=
  Text.startsWith type s!"{head}<" || Text.contains type s!"::{head}<"

/-- The value of a result: the first argument in the first pair of brackets. -/
def resultValue (type : String) : String :=
  if hasHead type "Result" then
    match Text.cut? type "<" with
    | some (_, arguments) =>
      let inner := (Text.Nesting.untilClosed? 1 arguments.toList).getD []
      match Text.Nesting.cutComma? 0 inner with
      | some (value, _) => Text.trim (String.ofList value)
      | none => String.ofList inner
    | none => type
  else type

/-- What stands between the first opening and the last closing bracket, for a type with the given
head. -/
def headArgument (type head : String) : String :=
  if hasHead type head then
    match Text.cut? type "<", Text.cutLast? type ">" with
    | some (before, _), some (upTo, _) => Text.trim (Text.drop upTo (before.length + 1))
    | _, _ => type
  else type

def lastPart (type : String) : String :=
  match Text.Nesting.afterLastSeparator? 0 type.toList with
  | some name => String.ofList name
  | none => type

def primitiveTypes : List String :=
  ["i8", "i16", "i32", "i64", "u8", "u16", "u32", "u64", "f32", "f64", "char", "str", "String",
   "usize", "isize"]

/-- The name that a type goes by: primitive types as they are, others without their arguments, and
none for truth values, the unit and what is no name. -/
def typeName? (type : String) : Option String :=
  if Text.startsWith type "impl " || ["()", "bool", "(,)", ""].contains type then none
  else if primitiveTypes.contains type then some type
  else
    let name := Text.trim (Text.before type "<")
    if (name.toList.head?.map Text.Unicode.isLetter).getD false then some name else none

/-- The name of the type that a call gives, where `self` is the type that `Self` stands for. -/
def returnedType? (type self : String) : Option String :=
  let type := Text.trim type
  if type == "" then none
  else if ["Self", "&Self", "&mut Self"].contains type then some self
  else
    let type := resultValue (behindReference type)
    typeName? (lastPart (headArgument (headArgument type "Option") "Box"))

end Oxidize.Stub
