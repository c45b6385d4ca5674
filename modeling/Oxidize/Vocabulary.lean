import Oxidize.Data.Value
import Oxidize.Decimal.Numeral

/-!
# The vocabulary of Rust types

The types that a Python program names to ask for types of Rust.
-/

namespace Oxidize.Vocabulary

inductive Base where
  | whole
  | fraction
  | generic

def Base.name : Base → String
  | whole => "int"
  | fraction => "float"
  | generic => "Generic"

structure Word where
  name : String
  base : Base
  fields : List String := []
  functions : Table Nat := []

def wholeWords : List Word :=
  ["u8", "u16", "u32", "u64", "u128", "usize", "i8", "i16", "i32", "i64", "i128", "isize"].map
    fun name => { name, base := .whole }

def fractionWords : List Word :=
  ["f32", "f64"].map fun name => { name, base := .fraction }

def genericWords : List Word :=
  [{ name := "Result", base := .generic, functions :=
      [("unwrap", 1), ("expect", 2), ("unwrap_or", 2), ("unwrap_err", 1), ("is_ok", 1),
       ("is_err", 1), ("map_error", 2)] },
   { name := "Ok", base := .generic, fields := ["value"] },
   { name := "Err", base := .generic, fields := ["error"] },
   { name := "Option", base := .generic, functions :=
      [("unwrap", 1), ("expect", 2), ("unwrap_or", 2), ("is_some", 1), ("is_none", 1)] },
   { name := "Some", base := .generic, fields := ["value"] },
   { name := "Box", base := .generic, functions := [("new", 1), ("into_inner", 1)] }]

def words : List Word :=
  wholeWords ++ fractionWords ++ genericWords

/-- Why nothing can be made of arguments. -/
inductive Fault where
  | unknownName
  /-- There are too few or too many arguments, or one of another form. -/
  | wrongArguments
  | notNumber
  /-- A number beyond all numbers of the wanted kind. -/
  | tooLarge

def Fault.className : Fault → String
  | unknownName => "AttributeError"
  | wrongArguments => "TypeError"
  | notNumber => "ValueError"
  | tooLarge => "OverflowError"

def word (name : String) : Except Fault Word :=
  match words.find? (·.name == name) with
  | some w => .ok w
  | none => .error .unknownName

def orFault {α : Type} (fault : Fault) : Option α → Except Fault α
  | some a => .ok a
  | none => .error fault

def wholeOf : Value → Except Fault Int
  | .int i => .ok i
  | .bool b => .ok (if b then 1 else 0)
  | .str s => orFault .notNumber (Decimal.readWhole? 10 s)
  | .float text => do
    let x ← orFault .notNumber (Decimal.readNumber? text)
    if x.isInf then .error .tooLarge else orFault .notNumber (Decimal.wholePart? x)
  | _ => .error .wrongArguments

def baseOf : Value → Except Fault Nat
  | .int i => if i == 0 || (2 ≤ i && i ≤ 36) then .ok i.toNat else .error .notNumber
  | .bool b => if b then .error .notNumber else .ok 0
  | _ => .error .wrongArguments

/-- The whole number that arguments stand for: a value, or a text and the base to read it. -/
def whole : List Value → Except Fault Int
  | [] => .ok 0
  | [v] => wholeOf v
  | [v, b] => do
    let base ← baseOf b
    match v with
    | .str s => orFault .notNumber (Decimal.readWhole? base s)
    | _ => .error .wrongArguments
  | _ => .error .wrongArguments

def fractionOf : Value → Except Fault Float
  | .int i => do
    let x ← orFault .notNumber (Decimal.readNumber? (toString i))
    if x.isInf then .error .tooLarge else .ok x
  | .bool b => .ok (if b then 1.0 else 0.0)
  | .str e | .float e => orFault .notNumber (Decimal.readNumber? e)
  | _ => .error .wrongArguments

def fraction : List Value → Except Fault Float
  | [] => .ok 0.0
  | [v] => fractionOf v
  | _ => .error .wrongArguments

/-- The text of a whole number; there is none for a number with too many digits. -/
def wholeText (i : Int) : Except Fault String :=
  let digits := toString i.natAbs
  if digits.length > Decimal.maxDigits then .error .notNumber
  else .ok (if i < 0 then s!"-{digits}" else digits)

def Word.numberText (w : Word) (arguments : List Value) : Except Fault String :=
  match w.base with
  | .whole => whole arguments >>= wholeText
  | .fraction => (fraction arguments).map Decimal.floatText
  | .generic => .error .wrongArguments

def Word.object (w : Word) (arguments : List Value) : Except Fault (Table Value) :=
  match w.base with
  | .whole => (whole arguments).map fun _ => []
  | .fraction => (fraction arguments).map fun _ => []
  | .generic =>
    if arguments.length == w.fields.length then .ok (w.fields.zip arguments)
    else .error .wrongArguments

/-- Call a function of a type, which gives nothing. -/
def Word.call (w : Word) (function : String) (arguments : List Value) : Except Fault Unit := do
  let count ← orFault .unknownName (w.functions.get? function)
  if arguments.length == count then return () else .error .wrongArguments

def errorName : String := "Error"

def errorFields : List String := ["message"]

def errorMessage : List Value → Except Fault Value
  | [] => .ok (.str "")
  | [message] => .ok message
  | _ => .error .wrongArguments

def errorText (message : Value) : Except Fault String :=
  orFault .wrongArguments message.text?

def errorForm (name : String) (message : Value) : String :=
  name ++ "(" ++ message.literal ++ ")"

end Oxidize.Vocabulary
