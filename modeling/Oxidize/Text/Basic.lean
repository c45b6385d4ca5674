/-!
# Searching, cutting and replacing text

Each operation is defined on the list of characters by plain recursion, with the operation on
strings as a wrapper.
-/

namespace Oxidize.Text

/-! ## Lists of characters -/

def hasInfix (needle : List Char) : List Char → Bool
  | [] => needle.isEmpty
  | c :: cs => needle.isPrefixOf (c :: cs) || hasInfix needle cs

/-- Write `new` for every occurrence of `old`; the next `skip` characters belong to an occurrence
that was written already. -/
def replaceChars (old new : List Char) : Nat → List Char → List Char
  | _, [] => []
  | skip + 1, _ :: cs => replaceChars old new skip cs
  | 0, c :: cs =>
    if old.isPrefixOf (c :: cs) then new ++ replaceChars old new (old.length - 1) cs
    else c :: replaceChars old new 0 cs

def consPiece (c : Char) : List (List Char) → List (List Char)
  | [] => [[c]]
  | piece :: pieces => (c :: piece) :: pieces

/-- The pieces between the occurrences of `sep`; the next `skip` characters belong to an occurrence
that was passed already. -/
def splitChars (sep : List Char) : Nat → List Char → List (List Char)
  | _, [] => [[]]
  | skip + 1, _ :: cs => splitChars sep skip cs
  | 0, c :: cs =>
    if sep.isPrefixOf (c :: cs) then [] :: splitChars sep (sep.length - 1) cs
    else consPiece c (splitChars sep 0 cs)

/-- What stands before the first occurrence of `sep` and what stands after it. -/
def cutChars (sep : List Char) : List Char → Option (List Char × List Char)
  | [] => if sep.isEmpty then some ([], []) else none
  | c :: cs =>
    if sep.isPrefixOf (c :: cs) then some ([], (c :: cs).drop sep.length)
    else (cutChars sep cs).map fun (before, after) => (c :: before, after)

/-- The list without its longest end whose characters all satisfy `p`. -/
def dropEndWhile (p : Char → Bool) (cs : List Char) : List Char :=
  (cs.reverse.dropWhile p).reverse

/-! ## Strings -/

def startsWith (s start : String) : Bool :=
  start.toList.isPrefixOf s.toList

def endsWith (s tail : String) : Bool :=
  tail.toList.isSuffixOf s.toList

def contains (s needle : String) : Bool :=
  hasInfix needle.toList s.toList

/-- Write `new` for every occurrence of the nonempty text `old`. -/
def replaceAll (s old new : String) : String :=
  String.ofList (replaceChars old.toList new.toList 0 s.toList)

/-- The pieces of `s` between the occurrences of the nonempty text `sep`. There is always one
piece more than there are occurrences. -/
def splitOn (s sep : String) : List String :=
  (splitChars sep.toList 0 s.toList).map String.ofList

/-- What stands before and after the first occurrence of `sep`. -/
def cut? (s sep : String) : Option (String × String) :=
  (cutChars sep.toList s.toList).map fun (before, after) =>
    (String.ofList before, String.ofList after)

def cutLast? (s sep : String) : Option (String × String) :=
  (cutChars sep.toList.reverse s.toList.reverse).map fun (after, before) =>
    (String.ofList before.reverse, String.ofList after.reverse)

/-- The part before the first occurrence of `sep`, or all of `s`. -/
def before (s sep : String) : String :=
  match cut? s sep with
  | some (head, _) => head
  | none => s

def afterLast (s sep : String) : String :=
  match cutLast? s sep with
  | some (_, tail) => tail
  | none => s

def drop (s : String) (n : Nat) : String :=
  String.ofList (s.toList.drop n)

def take (s : String) (n : Nat) : String :=
  String.ofList (s.toList.take n)

def dropEnd (s : String) (n : Nat) : String :=
  String.ofList (s.toList.take (s.toList.length - n))

def dropSuffix? (s tail : String) : Option String :=
  if endsWith s tail then some (dropEnd s tail.toList.length) else none

def dropSuffix (s tail : String) : String :=
  (dropSuffix? s tail).getD s

def dropStart? (s start : String) : Option String :=
  if startsWith s start then some (drop s start.toList.length) else none

/-- `s` without the beginning `start`, or `s` itself. -/
def dropStart (s start : String) : String :=
  (dropStart? s start).getD s

/-- `s` without the characters at its beginning that satisfy `p`. -/
def trimStartWhile (s : String) (p : Char → Bool) : String :=
  String.ofList (s.toList.dropWhile p)

def trimEndWhile (s : String) (p : Char → Bool) : String :=
  String.ofList (dropEndWhile p s.toList)

/-- `s` without the characters at both ends that satisfy `p`. -/
def trimWhile (s : String) (p : Char → Bool) : String :=
  String.ofList (dropEndWhile p (s.toList.dropWhile p))

def join (sep : String) (texts : List String) : String :=
  String.intercalate sep texts

def commas (texts : List String) : String :=
  join ", " texts

def times (s : String) : Nat → String
  | 0 => ""
  | n + 1 => s ++ times s n

/-! ## Lines -/

/-- Characters that end a line by themselves. A carriage return may take the next line feed. -/
def isLineBreak (c : Char) : Bool :=
  let n := c.toNat
  (0x0A ≤ n && n ≤ 0x0D) || (0x1C ≤ n && n ≤ 0x1E) || n == 0x85 || n == 0x2028 || n == 0x2029

def lineChars (current : List Char) : List Char → List (List Char)
  | [] => if current.isEmpty then [] else [current.reverse]
  | '\r' :: '\n' :: cs => current.reverse :: lineChars [] cs
  | c :: cs =>
    if isLineBreak c then current.reverse :: lineChars [] cs
    else lineChars (c :: current) cs

def lines (s : String) : List String :=
  (lineChars [] s.toList).map String.ofList

/-- The characters with a line feed for each end of line that has a carriage return. -/
def plainBreaks : List Char → List Char
  | '\r' :: '\n' :: cs => '\n' :: plainBreaks cs
  | '\r' :: cs => '\n' :: plainBreaks cs
  | c :: cs => c :: plainBreaks cs
  | [] => []

/-- A text as it is read from a file: every line ends with a line feed alone. -/
def asRead (s : String) : String :=
  String.ofList (plainBreaks s.toList)

/-! ## Small facts -/

theorem length_dropEndWhile_le (p : Char → Bool) (cs : List Char) :
    (dropEndWhile p cs).length ≤ cs.length := by
  have h := (List.dropWhile_suffix (l := cs.reverse) p).length_le
  simpa [dropEndWhile] using h

theorem hasInfix_iff {needle cs : List Char} : hasInfix needle cs = true ↔ needle <:+: cs := by
  induction cs with
  | nil => simp [hasInfix]
  | cons c cs ih =>
    rw [hasInfix, Bool.or_eq_true, List.isPrefixOf_iff_prefix, ih, List.infix_cons_iff]

theorem replaceChars_nil (old new : List Char) (skip : Nat) :
    replaceChars old new skip [] = [] := by
  cases skip <;> rfl

theorem splitChars_ne_nil (sep : List Char) (skip : Nat) (cs : List Char) :
    splitChars sep skip cs ≠ [] := by
  induction cs generalizing skip with
  | nil => cases skip <;> simp [splitChars]
  | cons c cs ih =>
    cases skip with
    | succ n => simpa [splitChars] using ih n
    | zero =>
      by_cases h : sep.isPrefixOf (c :: cs) = true
      · simp [splitChars, h]
      · simp only [splitChars, h]
        cases splitChars sep 0 cs <;> simp [consPiece]

end Oxidize.Text

namespace Oxidize.Text.Nesting

def step (depth : Int) (c : Char) : Int :=
  if c == '<' then depth + 1 else if c == '>' then depth - 1 else depth

def cutComma? (depth : Int) : List Char → Option (List Char × List Char)
  | [] => none
  | c :: cs =>
    if c == ',' && depth == 0 then some ([], cs)
    else (cutComma? (step depth c) cs).map fun (first, rest) => (c :: first, rest)

def afterLastSeparator? (depth : Int) : List Char → Option (List Char)
  | ':' :: ':' :: cs =>
    let further := afterLastSeparator? depth (':' :: cs)
    if depth == 0 then some (further.getD cs) else further
  | c :: cs => afterLastSeparator? (step depth c) cs
  | [] => none

/-- Where the first path separator stands that is not past a surplus closing bracket, or else the
depth at the end of the text. -/
inductive FirstSeparator where
  | outside
  | inside
  | missing (depth : Int)

def firstSeparator (depth : Int) : List Char → FirstSeparator
  | ':' :: ':' :: cs =>
    if depth == 0 then .outside
    else if depth > 0 then .inside
    else firstSeparator depth (':' :: cs)
  | c :: cs => firstSeparator (step depth c) cs
  | [] => .missing depth

/-- What stands inside the bracket that is open at depth one, up to the bracket that closes it. -/
def untilClosed? (depth : Int) : List Char → Option (List Char)
  | [] => none
  | c :: cs =>
    let after := step depth c
    if c == '>' && after == 0 then some []
    else (untilClosed? after cs).map (c :: ·)

end Oxidize.Text.Nesting
