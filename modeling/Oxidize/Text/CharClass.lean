import Oxidize.Text.Basic
import Oxidize.Text.Unicode

/-!
# Classes of characters and of texts

The tests on texts ask that the text is not empty, except where the doc comment says otherwise.

A text is quoted with single quotes, or with double quotes when it holds a single quote and no
double one.
-/

namespace Oxidize.Text

/-- Blank characters: the separators of lines and fields, and every kind of space. -/
def isBlank (c : Char) : Bool :=
  let n := c.toNat
  (0x09 ≤ n && n ≤ 0x0D) || (0x1C ≤ n && n ≤ 0x20) || n == 0x85 || n == 0xA0 || n == 0x1680 ||
    (0x2000 ≤ n && n ≤ 0x200A) || n == 0x2028 || n == 0x2029 || n == 0x202F || n == 0x205F ||
    n == 0x3000

def isWordChar (c : Char) : Bool :=
  c == '_' || Unicode.isLetter c || Unicode.isNumber c

def isDigits (s : String) : Bool :=
  !s.toList.isEmpty && s.toList.all Unicode.isDigit

def isUpperText (s : String) : Bool :=
  s.toList.any Unicode.isUpper && s.toList.all fun c => !(Unicode.isLower c || Unicode.isTitle c)

def isIdentifier (s : String) : Bool :=
  match s.toList with
  | [] => false
  | c :: cs => Unicode.isIdentifierStart c && cs.all Unicode.isIdentifierPart

/-- Does `s` begin with an uppercase character? `none` for the empty text. -/
def startsUpper? (s : String) : Option Bool :=
  s.toList.head?.map Unicode.isUpper

def trim (s : String) : String :=
  trimWhile s isBlank

def trimEnd (s : String) : String :=
  trimEndWhile s isBlank

/-- The runs of characters that are not blank, after the characters `current` of the first. -/
def wordChars (current : List Char) : List Char → List (List Char)
  | [] => if current.isEmpty then [] else [current]
  | c :: cs =>
    if isBlank c then
      if current.isEmpty then wordChars [] cs else current :: wordChars [] cs
    else wordChars (current ++ [c]) cs

def words (s : String) : List String :=
  (wordChars [] s.toList).map String.ofList

def lowerAscii (s : String) : String :=
  String.ofList (s.toList.map Char.toLower)

def hexDigit (n : Nat) : Char :=
  Char.ofNat (if n < 10 then 48 + n else 87 + n)

def hexDigits (n : Nat) : Nat → List Char
  | 0 => []
  | width + 1 => hexDigits (n / 16) width ++ [hexDigit (n % 16)]

def quoteFor (cs : List Char) : Char :=
  if cs.contains '\'' && !cs.contains '"' then '"' else '\''

def escapeCodePoint (n : Nat) : List Char :=
  if n < 0x100 then '\\' :: 'x' :: hexDigits n 2
  else if n < 0x10000 then '\\' :: 'u' :: hexDigits n 4
  else '\\' :: 'U' :: hexDigits n 8

def quotedChar (quote c : Char) : List Char :=
  if c == quote || c == '\\' then ['\\', c]
  else if c == '\t' then ['\\', 't']
  else if c == '\n' then ['\\', 'n']
  else if c == '\r' then ['\\', 'r']
  else if Unicode.isPrintable c then [c]
  else escapeCodePoint c.toNat

def quoted (s : String) : String :=
  let cs := s.toList
  let quote := quoteFor cs
  String.ofList (quote :: cs.flatMap (quotedChar quote) ++ [quote])

def quotedByte (quote : Char) (b : UInt8) : List Char :=
  let c := Char.ofNat b.toNat
  if c == quote || c == '\\' then ['\\', c]
  else if c == '\t' then ['\\', 't']
  else if c == '\n' then ['\\', 'n']
  else if c == '\r' then ['\\', 'r']
  else if b < 0x20 || 0x7F ≤ b then '\\' :: 'x' :: hexDigits b.toNat 2
  else [c]

def quotedBytes (bytes : List UInt8) : String :=
  let quote := quoteFor (bytes.map fun b => Char.ofNat b.toNat)
  String.ofList ('b' :: quote :: bytes.flatMap (quotedByte quote) ++ [quote])

end Oxidize.Text
