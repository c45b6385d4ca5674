import Oxidize.Data.Value
import Oxidize.Decimal.Numeral

/-!
# Reading and writing JSON

A text in JSON is read as a value; the members of an object keep their order, and of two members
with one name the later counts.

A value is written on one line, or with one member or item a line and two blanks for each level.
-/

namespace Oxidize.Json

inductive Fault where
  | noValue
  | extraData
  | noMemberName
  | noColon
  | noComma
  | unterminatedText
  | controlChar
  | badEscape
  | badCodePoint
  | byteOrderMark
  | tooManyDigits (count : Nat)
  | deepArray
  | deepObject
  deriving BEq

def maxDepth : Nat := 960

def Fault.message : Fault → String
  | .noValue => "Expecting value"
  | .extraData => "Extra data"
  | .noMemberName => "Expecting property name enclosed in double quotes"
  | .noColon => "Expecting ':' delimiter"
  | .noComma => "Expecting ',' delimiter"
  | .unterminatedText => "Unterminated string starting at"
  | .controlChar => "Invalid control character at"
  | .badEscape => "Invalid \\escape"
  | .badCodePoint => "Invalid \\uXXXX escape"
  | .byteOrderMark => "Unexpected UTF-8 BOM (decode using utf-8-sig)"
  | .tooManyDigits count =>
    s!"Exceeds the limit ({Decimal.maxDigits} digits) for integer string conversion: value has " ++
      s!"{count} digits; use sys.set_int_max_str_digits() to increase the limit"
  | .deepArray =>
    "maximum recursion depth exceeded while decoding a JSON array from a unicode string"
  | .deepObject =>
    "maximum recursion depth exceeded while decoding a JSON object from a unicode string"

/-- A fault, with the text that follows its place. -/
structure FaultAt where
  fault : Fault
  rest : List Char

def failAt {α : Type} (fault : Fault) (rest : List Char) : Except FaultAt (α × List Char) :=
  .error ⟨fault, rest⟩

def skipBlanks (cs : List Char) : List Char :=
  cs.dropWhile fun c => c == ' ' || c == '\t' || c == '\n' || c == '\r'

def hexValue? (c : Char) : Option Nat :=
  (Decimal.digitValue? c).filter (· < 16)

def hexUnit? (cs : List Char) : Option (Nat × List Char) := do
  let digits ← (cs.take 4).mapM hexValue?
  if digits.length < 4 then none
  else return (digits.foldl (16 * · + ·) 0, cs.drop 4)

def isHighUnit (n : Nat) : Bool :=
  0xD800 ≤ n && n ≤ 0xDBFF

def isLowUnit (n : Nat) : Bool :=
  0xDC00 ≤ n && n ≤ 0xDFFF

/-- The character of a code point; a unit without its partner becomes the replacement character. -/
def charOf (n : Nat) : Char :=
  if isHighUnit n || isLowUnit n then Char.ofNat 0xFFFD else Char.ofNat n

def hasRoom (cs : List Char) : Bool :=
  !(cs.drop 4).isEmpty

def readUnit (letter : Char) (cs : List Char) : Except FaultAt (Nat × List Char) :=
  match hexUnit? cs with
  | some read => .ok read
  | none => failAt .badCodePoint (letter :: cs)

/-- Read the character given by the unit after the letter of an escape, or by that unit and the one
of a second escape. A text does not end with a unit. -/
def readCodePoint (letter : Char) (cs : List Char) : Except FaultAt (Char × List Char) := do
  if !hasRoom cs then throw ⟨.badCodePoint, letter :: cs⟩
  let (first, rest) ← readUnit letter cs
  match rest with
  | '\\' :: 'u' :: more =>
    if isHighUnit first && hasRoom more then
      let (second, after) ← readUnit 'u' more
      if isLowUnit second then
        return (Char.ofNat (0x10000 + (first - 0xD800) * 0x400 + (second - 0xDC00)), after)
      else return (charOf first, rest)
    else return (charOf first, rest)
  | _ => return (charOf first, rest)

/-- The letters of escapes, with the characters that they stand for. -/
def escapes : List (Char × Char) :=
  [('"', '"'), ('\\', '\\'), ('b', '\x08'), ('f', '\x0c'), ('n', '\n'), ('r', '\r'),
   ('t', '\t'), ('/', '/')]

/-- Read the rest of a text after its opening quote; `start` is the text from that quote on. -/
def readText (start : List Char) :
    Nat → List Char → List Char → Except FaultAt (String × List Char)
  | 0, _, _ => failAt .unterminatedText start
  | _ + 1, _, [] => failAt .unterminatedText start
  | fuel + 1, acc, c :: cs =>
    if c == '"' then .ok (String.ofList acc.reverse, cs)
    else if c == '\\' then
      match cs with
      | [] => failAt .unterminatedText start
      | 'u' :: rest => do
        let (char, after) ← readCodePoint 'u' rest
        readText start fuel (char :: acc) after
      | e :: rest =>
        match escapes.lookup e with
        | some char => readText start fuel (char :: acc) rest
        | none => failAt .badEscape (c :: cs)
    else if c.toNat < 0x20 then failAt .controlChar (c :: cs)
    else readText start fuel (c :: acc) cs

/-- The part of a number after its whole digits: the fraction and the exponent, as far as they are
well-formed. -/
def spanFraction (cs : List Char) : List Char × List Char :=
  let (fraction, rest) := match cs with
    | '.' :: more =>
      let (digits, after) := Decimal.spanDigits more
      if digits.isEmpty then ([], cs) else ('.' :: digits, after)
    | _ => ([], cs)
  let (exponent, rest) := match rest with
    | c :: more =>
      if c == 'e' || c == 'E' then
        let (sign, more) := match more with
          | '-' :: after => (['-'], after)
          | '+' :: after => (['+'], after)
          | _ => ([], more)
        let (digits, after) := Decimal.spanDigits more
        if digits.isEmpty then ([], rest) else (c :: (sign ++ digits), after)
      else ([], rest)
    | [] => ([], rest)
  (fraction ++ exponent, rest)

def readUnsigned (isNegative : Bool) (cs : List Char) : Except FaultAt (Value × List Char) :=
  let (whole, rest) := match cs with
    | '0' :: more => (['0'], more)
    | _ => Decimal.spanDigits cs
  if whole.isEmpty then failAt .noValue (if isNegative then '-' :: cs else cs)
  else
    let (fraction, rest) := spanFraction rest
    let sign := if isNegative then ['-'] else []
    if !fraction.isEmpty then
      .ok (.float (Decimal.normalText (String.ofList (sign ++ whole ++ fraction))), rest)
    else if whole.length > Decimal.maxDigits then failAt (.tooManyDigits whole.length) cs
    else .ok (.int (Decimal.signed isNegative (Decimal.natOfDigits whole)), rest)

def words : Table Value :=
  [("null", .null), ("true", .bool true), ("false", .bool false), ("NaN", .float "nan"),
   ("Infinity", .float "inf"), ("-Infinity", .float "-inf")]

def readPlain (cs : List Char) : Except FaultAt (Value × List Char) :=
  match words.find? fun (word, _) => word.toList.isPrefixOf cs with
  | some (word, v) => .ok (v, cs.drop word.length)
  | none =>
    match cs with
    | '-' :: rest => readUnsigned true rest
    | _ => readUnsigned false cs

mutual

/-- Read a value of a text of at most `size` characters, with so many more levels of nesting. -/
def readValue (size : Nat) : Nat → Nat → List Char → Except FaultAt (Value × List Char)
  | 0, _, cs => failAt .noValue cs
  | fuel + 1, depth, cs =>
    match cs with
    | '"' :: rest => do
      let (text, after) ← readText cs size [] rest
      return (.str text, after)
    | '[' :: rest =>
      match depth, skipBlanks rest with
      | 0, _ => failAt .deepArray cs
      | _, ']' :: after => .ok (.list [], after)
      | depth + 1, start => do
        let (items, after) ← readItems size fuel depth start
        return (.list items, after)
    | '\x7b' :: rest =>
      match depth, skipBlanks rest with
      | 0, _ => failAt .deepObject cs
      | _, '\x7d' :: after => .ok (.table [], after)
      | depth + 1, start => do
        let (members, after) ← readMembers size fuel depth start
        return (.table (Table.ofList members), after)
    | _ => readPlain cs

def readItems (size : Nat) : Nat → Nat → List Char → Except FaultAt (List Value × List Char)
  | 0, _, cs => failAt .noValue cs
  | fuel + 1, depth, cs => do
    let (first, rest) ← readValue size fuel depth cs
    match skipBlanks rest with
    | ']' :: after => return ([first], after)
    | ',' :: after =>
      let (others, last) ← readItems size fuel depth (skipBlanks after)
      return (first :: others, last)
    | other => failAt .noComma other

def readMembers (size : Nat) :
    Nat → Nat → List Char → Except FaultAt (Table Value × List Char)
  | 0, _, cs => failAt .noValue cs
  | fuel + 1, depth, cs => do
    match cs with
    | '"' :: start =>
      let (name, rest) ← readText cs size [] start
      match skipBlanks rest with
      | ':' :: after =>
        let (v, rest) ← readValue size fuel depth (skipBlanks after)
        match skipBlanks rest with
        | '\x7d' :: last => return ([(name, v)], last)
        | ',' :: more =>
          let (others, last) ← readMembers size fuel depth (skipBlanks more)
          return ((name, v) :: others, last)
        | other => failAt .noComma other
      | other => failAt .noColon other
    | _ => failAt .noMemberName cs

end

/-- Read a text that is one value. Each opening bracket takes two steps. -/
def readAll (cs : List Char) : Except FaultAt Value := do
  if cs.head? == some '\ufeff' then throw ⟨.byteOrderMark, cs⟩
  let size := cs.length + 1
  let (v, rest) ← readValue size (2 * size) maxDepth (skipBlanks cs)
  match skipBlanks rest with
  | [] => return v
  | extra => .error ⟨.extraData, extra⟩

def Fault.isLimit : Fault → Bool
  | .tooManyDigits _ | .deepArray | .deepObject => true
  | _ => false

def FaultAt.text (f : FaultAt) (whole : List Char) : String :=
  if f.fault.isLimit then f.fault.message
  else
    let position := whole.length - f.rest.length
    let before := whole.take position
    let line := before.count '\n' + 1
    let column := (before.reverse.takeWhile (· != '\n')).length + 1
    s!"{f.fault.message}: line {line} column {column} (char {position})"

/-- Why a text was not read. -/
structure Failure where
  fault : Fault
  message : String

def read (text : String) : Except Failure Value :=
  let cs := text.toList
  (readAll cs).mapError fun f => { fault := f.fault, message := f.text cs }

def escapeUnit (n : Nat) : List Char :=
  '\\' :: 'u' :: Text.hexDigits n 4

def textChar (c : Char) : List Char :=
  let n := c.toNat
  match escapes.find? (·.2 == c) with
  | some (letter, _) => if letter == '/' then [c] else ['\\', letter]
  | none =>
    if 0x20 ≤ n && n ≤ 0x7E then [c]
    else if n < 0x10000 then escapeUnit n
    else
      escapeUnit (0xD800 + (n - 0x10000) / 0x400) ++ escapeUnit (0xDC00 + (n - 0x10000) % 0x400)

def quoted (s : String) : String :=
  String.ofList ('"' :: (s.toList.flatMap textChar ++ ['"']))

def floatWord (text : String) : String :=
  ((words.find? (·.2 == .float text)).map (·.1)).getD text

/-- Parts between brackets: on one line, or one a line where a depth is given. -/
def bracketed (opening closing : String) (depth? : Option Nat) (parts : List String) : String :=
  match depth?, parts with
  | some depth, _ :: _ =>
    let inner := "\n" ++ Text.times "  " (depth + 1)
    let outer := "\n" ++ Text.times "  " depth
    opening ++ inner ++ Text.join ("," ++ inner) parts ++ outer ++ closing
  | _, _ => opening ++ Text.join "," parts ++ closing

mutual

def renderAt (depth? : Option Nat) : Value → String
  | .null => "null"
  | .bool b => if b then "true" else "false"
  | .int i => toString i
  | .float t => floatWord t
  | .str s => quoted s
  | .list xs => bracketed "[" "]" depth? (renderItems (depth?.map (· + 1)) xs)
  | .table es => bracketed "\x7b" "\x7d" depth? (renderMembers (depth?.map (· + 1)) es)

def renderItems (depth? : Option Nat) : List Value → List String
  | [] => []
  | v :: vs => renderAt depth? v :: renderItems depth? vs

def renderMembers (depth? : Option Nat) : Table Value → List String
  | [] => []
  | (k, v) :: es =>
    let colon := if depth?.isSome then ": " else ":"
    (quoted k ++ colon ++ renderAt depth? v) :: renderMembers depth? es

end

def render : Value → String :=
  renderAt none

def pretty : Value → String :=
  renderAt (some 0)

end Oxidize.Json
