import Oxidize.Text.CharClass

/-!
# Numerals in text

A numeral may have blanks around it, a sign in front, digits of any script, and single underscores
between its digits.

A number is written with the fewest digits that read back: positionally if its point lies between
the fourth place before and the sixteenth place after its first digit, else with an exponent of at
least two digits.
-/

namespace Oxidize.Decimal

/-! ## Shortest decimals -/

/-- A positive decimal: its digits, and the place of the point in front of which they start, so that
the digits `d₁ d₂ …` at `point` mean `0.d₁d₂… * 10 ^ point`. -/
structure Digits where
  digits : List Nat
  point : Int

/-- A positive number with the interval of the reals that are read as it, over one denominator. -/
structure Bracket where
  low : Nat
  value : Nat
  high : Nat
  denominator : Nat
  /-- Do the ends belong to the interval? -/
  closed : Bool

namespace Bracket

/-- The interval of `m * 2 ^ q`; below the first number of a binade the neighbours are closer. -/
def ofBinary (m : Nat) (q : Int) (isFirst : Bool) : Bracket :=
  let scale := if q ≥ 2 then Nat.pow 2 (q - 2).toNat else 1
  { low := (4 * m - if isFirst then 1 else 2) * scale
    value := 4 * m * scale
    high := (4 * m + 2) * scale
    denominator := if q ≥ 2 then 1 else Nat.pow 2 (2 - q).toNat
    closed := m % 2 == 0 }

def compareGrid (b : Bracket) (n : Nat) (e : Int) (x : Nat) : Ordering :=
  if e ≥ 0 then compare (n * Nat.pow 10 e.toNat * b.denominator) x
  else compare (n * b.denominator) (x * Nat.pow 10 (-e).toNat)

def contains (b : Bracket) (n : Nat) (e : Int) : Bool :=
  let isAbove := match b.compareGrid n e b.low with
    | .gt => true
    | .eq => b.closed
    | .lt => false
  let isBelow := match b.compareGrid n e b.high with
    | .lt => true
    | .eq => b.closed
    | .gt => false
  isAbove && isBelow

/-- The largest `n` with `n * 10 ^ e` at most the number. -/
def floorGrid (b : Bracket) (e : Int) : Nat :=
  if e ≥ 0 then b.value / (b.denominator * Nat.pow 10 e.toNat)
  else b.value * Nat.pow 10 (-e).toNat / b.denominator

/-- Is the number nearer to `n * 10 ^ e` than to `(n + 1) * 10 ^ e`? A tie goes to the even one. -/
def prefersFloor (b : Bracket) (n : Nat) (e : Int) : Bool :=
  match b.compareGrid (2 * n + 1) e (2 * b.value) with
  | .gt => true
  | .eq => n % 2 == 0
  | .lt => false

/-- The point of the grid with step `10 ^ e` that is read as the number, the nearer one of two. -/
def onGrid? (b : Bracket) (e : Int) : Option Nat :=
  let n := b.floorGrid e
  match b.contains n e, b.contains (n + 1) e with
  | true, true => some (if b.prefersFloor n e then n else n + 1)
  | true, false => some n
  | false, true => some (n + 1)
  | false, false => none

/-- The number of zeros that follow the point before the first digit, for a number below one. -/
def leadingZeros (b : Bracket) : Nat :=
  ((List.range 400).find? fun j => b.value * Nat.pow 10 j ≥ b.denominator).getD 0

/-- The place of the point: the number of digits before it, or less for a number below one. -/
def point (b : Bracket) : Int :=
  if b.value ≥ b.denominator then (Nat.toDigits 10 (b.value / b.denominator)).length
  else 1 - b.leadingZeros

/-- The decimal `n * 10 ^ e` by its digits, without zeros at the end. -/
def digitsOf (n : Nat) (e : Int) : Digits :=
  let digits := (Nat.toDigits 10 n).map fun c => c.toNat - '0'.toNat
  { digits := (digits.reverse.dropWhile (· == 0)).reverse, point := digits.length + e }

def shortest (b : Bracket) : Digits :=
  let found := (List.range 17).findSome? fun (i : Nat) =>
    let e := b.point - (i + 1 : Nat)
    (b.onGrid? e).map fun n => digitsOf n e
  found.getD { digits := [], point := 0 }

end Bracket

/-- A binary number by its sign and its size. -/
inductive Binary where
  | nan
  | infinite (isNegative : Bool)
  | zero (isNegative : Bool)
  | finite (isNegative : Bool) (m : Nat) (q : Int)

namespace Binary

def ofBits (bits : UInt64) : Binary :=
  let isNegative := bits >>> 63 == 1
  let exponent := ((bits >>> 52) &&& 0x7ff).toNat
  let fraction := (bits &&& 0xfffffffffffff).toNat
  if exponent == 0x7ff then
    if fraction == 0 then .infinite isNegative else .nan
  else if exponent == 0 then
    if fraction == 0 then .zero isNegative else .finite isNegative fraction (-1074)
  else .finite isNegative (Nat.pow 2 52 + fraction) (exponent - 1075)

def digits (m : Nat) (q : Int) : Digits :=
  (Bracket.ofBinary m q (m == Nat.pow 2 52 && q > -1074)).shortest

end Binary

/-! ## Numerals -/

def digitText (digits : List Nat) : String :=
  String.ofList (digits.map fun d => Char.ofNat (d + '0'.toNat))

def exponentText (e : Int) : String :=
  let size := toString e.natAbs
  (if e < 0 then "e-" else "e+") ++ if size.length < 2 then s!"0{size}" else size

def positional (d : Digits) : String :=
  if d.point ≤ 0 then "0." ++ Text.times "0" (-d.point).toNat ++ digitText d.digits
  else
    let whole := d.digits.take d.point.toNat
    let zeros := Text.times "0" (d.point.toNat - whole.length)
    let fraction := d.digits.drop d.point.toNat
    digitText whole ++ zeros ++ "." ++ if fraction.isEmpty then "0" else digitText fraction

def scientific (d : Digits) : String :=
  let first := digitText (d.digits.take 1)
  let others := d.digits.drop 1
  first ++ (if others.isEmpty then "" else "." ++ digitText others) ++ exponentText (d.point - 1)

def digitsText (d : Digits) : String :=
  if d.point ≤ -4 || d.point > 16 then scientific d else positional d

def signText (isNegative : Bool) : String :=
  if isNegative then "-" else ""

def binaryText : Binary → String
  | .nan => "nan"
  | .infinite isNegative => signText isNegative ++ "inf"
  | .zero isNegative => signText isNegative ++ "0.0"
  | .finite isNegative m q => signText isNegative ++ digitsText (Binary.digits m q)

def floatText (x : Float) : String :=
  binaryText (Binary.ofBits x.toBits)

def spanDigits (cs : List Char) : List Char × List Char :=
  (cs.takeWhile Char.isDigit, cs.dropWhile Char.isDigit)

def natOfDigits (cs : List Char) : Nat :=
  cs.foldl (fun n c => 10 * n + (c.toNat - '0'.toNat)) 0

def spanSign : List Char → Bool × List Char
  | '-' :: cs => (true, cs)
  | '+' :: cs => (false, cs)
  | cs => (false, cs)

def signed (isNegative : Bool) (size : Nat) : Int :=
  if isNegative then -size else size

/-- An exponent with an optional sign; nothing is the exponent zero. -/
def readExponent? : List Char → Option Int
  | [] => some 0
  | c :: cs =>
    if c == 'e' || c == 'E' then
      let (isNegative, digits) := spanSign cs
      if digits.isEmpty || !digits.all Char.isDigit then none
      else some (signed isNegative (natOfDigits digits))
    else none

def readUnsigned? (cs : List Char) : Option Float :=
  let (whole, rest) := spanDigits cs
  let (fraction, rest) := match rest with
    | '.' :: more => spanDigits more
    | _ => ([], rest)
  if whole.isEmpty && fraction.isEmpty then none
  else
    (readExponent? rest).map fun (e : Int) =>
      let exponent := e - (fraction.length : Int)
      let digits := whole ++ fraction
      let m := natOfDigits digits
      if m == 0 || exponent + (digits.length : Int) < -400 then 0.0
      else if exponent > 400 then 1.0 / 0.0
      else if exponent < 0 then Float.ofScientific m true exponent.natAbs
      else Float.ofScientific m false exponent.natAbs

def readFloat? (text : String) : Option Float :=
  let (isNegative, cs) := spanSign text.toList
  (readUnsigned? cs).map fun x => if isNegative then -x else x

def normalText (text : String) : String :=
  match readFloat? text with
  | some x => floatText x
  | none => text

/-- Blanks that may stand around a numeral; the separators of fields are not among them. -/
def isNumeralBlank (c : Char) : Bool :=
  Text.isBlank c && !(0x1C ≤ c.toNat && c.toNat ≤ 0x1F)

/-- The characters of a numeral without blanks around it, its digits as those of base ten. -/
def numeralChars (text : String) : List Char :=
  (Text.trimWhile text isNumeralBlank).toList.map fun c =>
    match Text.Unicode.decimalDigit? c with
    | some d => Char.ofNat (d + '0'.toNat)
    | none => c

def digitValue? (c : Char) : Option Nat :=
  if c.isDigit then some (c.toNat - '0'.toNat)
  else if c.isLower then some (c.toNat - 'a'.toNat + 10)
  else if c.isUpper then some (c.toNat - 'A'.toNat + 10)
  else none

/-- The values of digits to a base, with single underscores between them. `isAfterDigit` says
whether a digit stands in front. -/
def digitValues? (base : Nat) (isAfterDigit : Bool) : List Char → Option (List Nat)
  | [] => if isAfterDigit then some [] else none
  | c :: cs =>
    if c == '_' then if isAfterDigit then digitValues? base false cs else none
    else
      match digitValue? c with
      | some d => if d < base then (digitValues? base true cs).map (d :: ·) else none
      | none => none

def markedBase? (c : Char) : Option Nat :=
  match c.toLower with
  | 'x' => some 16
  | 'o' => some 8
  | 'b' => some 2
  | _ => none

/-- The digits after the mark of a base; an underscore may stand between mark and digits. -/
def afterMark (cs : List Char) : List Char :=
  match cs with
  | '_' :: rest => rest
  | _ => cs

def spanBase (base : Nat) (cs : List Char) : Nat × List Char :=
  let unmarked := (if base == 0 then 10 else base, cs)
  match cs with
  | '0' :: c :: rest =>
    match markedBase? c with
    | some marked =>
      if base == 0 || base == marked then (marked, afterMark rest) else unmarked
    | none => unmarked
  | _ => unmarked

def maxDigits : Nat := 4300

/-- The digits of a whole number to a base that is asked for: bases that are no powers of two have
numerals of limited length, and without a base a numeral other than zero begins with no zero. -/
def wholeDigits? (asked : Nat) (cs : List Char) : Option (Nat × List Nat) := do
  let (base, digits) := spanBase asked cs
  let values ← digitValues? base false digits
  let isPower := [2, 4, 8, 16, 32].contains base
  if !isPower && values.length > maxDigits then none
  else if asked == 0 && base == 10 && values.head? == some 0 && values.any (· != 0) then none
  else some (base, values)

def readWhole? (base : Nat) (text : String) : Option Int := do
  let (isNegative, cs) := spanSign (numeralChars text)
  let (base, values) ← wholeDigits? base cs
  let size := values.foldl (fun n d => base * n + d) 0
  return signed isNegative size

/-- Leave out the underscores between digits. `none` if one stands elsewhere. -/
def withoutUnderscores? (isAfterDigit : Bool) : List Char → Option (List Char)
  | [] => some []
  | '_' :: c :: cs =>
    if isAfterDigit && c.isDigit then (withoutUnderscores? true cs).map (c :: ·) else none
  | c :: cs => if c == '_' then none else (withoutUnderscores? c.isDigit cs).map (c :: ·)

def wordNumber? (cs : List Char) : Option Float :=
  match String.ofList (cs.map Char.toLower) with
  | "inf" | "infinity" => some (1.0 / 0.0)
  | "nan" => some (0.0 / 0.0)
  | _ => none

def readNumber? (text : String) : Option Float := do
  let (isNegative, cs) := spanSign (numeralChars text)
  let digits ← withoutUnderscores? false cs
  let size ← (readUnsigned? digits).or (wordNumber? digits)
  return if isNegative then -size else size

/-- The whole part of a number. `none` if the number is not finite. -/
def wholePart? (x : Float) : Option Int :=
  match Binary.ofBits x.toBits with
  | .nan | .infinite _ => none
  | .zero _ => some 0
  | .finite isNegative m q =>
    let scale := Nat.pow 2 q.natAbs
    let size := if q < 0 then m / scale else m * scale
    some (signed isNegative size)

end Oxidize.Decimal
