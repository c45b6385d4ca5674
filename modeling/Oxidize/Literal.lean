import Oxidize.Data.Value

/-!
# Literals of the source language

The constants that a source program can write.

Null and truth values are themselves; every other constant is an object whose one member names the
kind: `s` a text, `i` a whole number by its digits, `f` a number with a fraction, `b` bytes by their
hexadecimal digits, `c` an imaginary number, `e` the ellipsis.
-/

namespace Oxidize

/-- A constant of the source language. -/
inductive Literal where
  | none
  | bool (value : Bool)
  | int (value : Int)
  | float (text : String)
  | str (text : String)
  | bytes (bytes : List UInt8)
  | complex (text : String)
  | ellipsis
  deriving BEq, DecidableEq

namespace Literal

def source : Literal → String
  | .none => "None"
  | .bool true => "True"
  | .bool false => "False"
  | .int i => toString i
  | .float t => t
  | .str s => Text.quoted s
  | .bytes b => Text.quotedBytes b
  | .complex t => t
  | .ellipsis => "Ellipsis"

def display : Literal → String
  | .str s => s
  | l => l.source

def hexDigitValue (c : Char) : Nat :=
  if c.isDigit then c.toNat - 48 else c.toNat - 87

def bytesOfHex : List Char → List UInt8
  | a :: b :: rest => UInt8.ofNat (hexDigitValue a * 16 + hexDigitValue b) :: bytesOfHex rest
  | _ => []

def hexOfBytes (bytes : List UInt8) : String :=
  String.ofList (bytes.flatMap fun b => Text.hexDigits b.toNat 2)

def ofDocument : Value → Literal
  | .bool b => .bool b
  | .table [(kind, v)] =>
    match kind with
    | "s" => .str v.text
    | "i" => .int (v.text.toInt?.getD 0)
    | "f" => .float v.text
    | "b" => .bytes (bytesOfHex v.text.toList)
    | "c" => .complex v.text
    | _ => .ellipsis
  | _ => .none

def toDocument : Literal → Value
  | .none => .null
  | .bool b => .bool b
  | .int i => .table [("i", .str (toString i))]
  | .float t => .table [("f", .str t)]
  | .str s => .table [("s", .str s)]
  | .bytes b => .table [("b", .str (hexOfBytes b))]
  | .complex t => .table [("c", .str t)]
  | .ellipsis => .table [("e", .bool true)]

end Literal

end Oxidize
