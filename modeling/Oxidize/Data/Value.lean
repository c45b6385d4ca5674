import Oxidize.Table
import Oxidize.Text.CharClass

/-!
# Values of configuration files

Values of a configuration are looked into by what their form allows: tables by key, lists and texts
by what they hold. As documents they are nodes with named fields, of which any may be left out.
-/

namespace Oxidize

inductive Value where
  | null
  | bool (value : Bool)
  | int (value : Int)
  | float (text : String)
  | str (text : String)
  | list (items : List Value)
  | table (entries : List (String × Value))

namespace Value

mutual

def same : Value → Value → Bool
  | .null, .null => true
  | .bool a, .bool b => a == b
  | .int a, .int b => a == b
  | .float a, .float b => a == b
  | .str a, .str b => a == b
  | .list as, .list bs => sameItems as bs
  | .table as, .table bs => sameEntries as bs
  | _, _ => false

def sameItems : List Value → List Value → Bool
  | [], [] => true
  | a :: as, b :: bs => same a b && sameItems as bs
  | _, _ => false

def sameEntries : Table Value → Table Value → Bool
  | [], [] => true
  | (k, a) :: as, (l, b) :: bs => k == l && same a b && sameEntries as bs
  | _, _ => false

end

instance : BEq Value := ⟨same⟩

mutual

theorem same_iff (v w : Value) : same v w = true ↔ v = w := by
  cases v with
  | list as =>
    cases w with
    | list bs => rw [same, sameItems_iff as bs, list.injEq]
    | _ => simp [same]
  | table as =>
    cases w with
    | table bs => rw [same, sameEntries_iff as bs, table.injEq]
    | _ => simp [same]
  | _ => cases w <;> simp [same]

theorem sameItems_iff (as bs : List Value) : sameItems as bs = true ↔ as = bs := by
  match as, bs with
  | [], [] | [], _ :: _ | _ :: _, [] => simp [sameItems]
  | a :: as, b :: bs =>
    rw [sameItems, Bool.and_eq_true, same_iff a b, sameItems_iff as bs, List.cons.injEq]

theorem sameEntries_iff (as bs : Table Value) : sameEntries as bs = true ↔ as = bs := by
  match as, bs with
  | [], [] | [], _ :: _ | _ :: _, [] => simp [sameEntries]
  | (k, a) :: as, (l, b) :: bs =>
    rw [sameEntries, Bool.and_eq_true, Bool.and_eq_true, same_iff a b, sameEntries_iff as bs,
      List.cons.injEq, Prod.mk.injEq, beq_iff_eq]

end

instance : LawfulBEq Value where
  eq_of_beq h := (same_iff _ _).1 h
  rfl := (same_iff _ _).2 rfl

instance : DecidableEq Value :=
  instDecidableEqOfLawfulBEq

/-- Does the value count as set? Empty texts, lists and tables, zero, `false` and the null value
do not. -/
def isSet : Value → Bool
  | .null => false
  | .bool b => b
  | .int i => i != 0
  | .float t => t != "0.0" && t != "-0.0"
  | .str s => s != ""
  | .list xs => !xs.isEmpty
  | .table es => !es.isEmpty

def text? : Value → Option String
  | .str s => some s
  | _ => none

def items? : Value → Option (List Value)
  | .list xs => some xs
  | _ => none

def entries? : Value → Option (Table Value)
  | .table es => some es
  | _ => none

/-- The parts of a value that is gone through one by one: items, characters or keys. -/
def parts? : Value → Option (List Value)
  | .list xs => some xs
  | .str s => some (s.toList.map fun c => .str (String.singleton c))
  | .table es => some (es.map fun e => .str e.1)
  | _ => none

def field? (v : Value) (key : String) : Option Value :=
  v.entries?.bind (Table.get? · key)

def texts (v : Value) : List String :=
  ((v.items?).getD []).filterMap text?

mutual

/-- The value in the notation of literals: texts quoted, lists in brackets, tables in braces. -/
def literal : Value → String
  | .null => "None"
  | .bool true => "True"
  | .bool false => "False"
  | .int i => toString i
  | .float t => t
  | .str s => Text.quoted s
  | .list xs => "[" ++ Text.commas (literals xs) ++ "]"
  | .table es => "\x7b" ++ Text.commas (literalEntries es) ++ "\x7d"

def literals : List Value → List String
  | [] => []
  | v :: vs => literal v :: literals vs

def literalEntries : Table Value → List String
  | [] => []
  | (k, v) :: es => (Text.quoted k ++ ": " ++ literal v) :: literalEntries es

end

/-- The value as displayed: a text is itself, everything else is in the notation of literals. -/
def display : Value → String
  | .str s => s
  | v => v.literal

end Value

/-! ## Looking into values -/

/-- Why a value cannot be looked into. -/
inductive ValueFault where
  | noOperation (form operation : String)
  | noLength (form : String)
  | holdsNothing (form : String)
  | textByKey
  | listByKey
  | notIndexed (form : String)
  | missingKey (key : String)
  | missingPosition (position : Nat)
  | notListed (form : String)
  | notSearched (form : String)
  | notKey (form : String)
  /-- An entry consists of so many parts, and not of a key and a value. -/
  | notPair (parts : Nat)
  deriving BEq, DecidableEq

def ValueFault.text : ValueFault → String
  | noOperation form operation => s!"'{form}' object has no attribute '{operation}'"
  | noLength form => s!"object of type '{form}' has no len()"
  | holdsNothing form => s!"argument of type '{form}' is not iterable"
  | textByKey => "string indices must be integers, not 'str'"
  | listByKey => "list indices must be integers or slices, not str"
  | notIndexed form => s!"'{form}' object is not subscriptable"
  | missingKey key => Text.quoted key
  | missingPosition position => s!"{position}"
  | notListed form => s!"'{form}' object is not iterable"
  | notSearched form => s!"expected string or bytes-like object, got '{form}'"
  | notKey form => s!"unhashable type: '{form}'"
  | notPair parts => s!"dictionary update sequence element has length {parts}; 2 is required"

/-- The class of errors that a fault belongs to. -/
def ValueFault.className : ValueFault → String
  | noOperation _ _ => "AttributeError"
  | missingKey _ | missingPosition _ => "KeyError"
  | notPair _ => "ValueError"
  | _ => "TypeError"

namespace Value

def form : Value → String
  | .null => "NoneType"
  | .bool _ => "bool"
  | .int _ => "int"
  | .float _ => "float"
  | .str _ => "str"
  | .list _ => "list"
  | .table _ => "dict"

def entryOr (v : Value) (key : String) (default : Value) : Except ValueFault Value :=
  match v with
  | .table entries => .ok ((Table.get? entries key).getD default)
  | other => .error (.noOperation other.form "get")

def size : Value → Except ValueFault Nat
  | .str text => .ok text.length
  | .list items => .ok items.length
  | .table entries => .ok entries.length
  | other => .error (.noLength other.form)

def parts (v : Value) : List Value :=
  v.parts?.getD []

/-- Does the value hold the text: as a key, an item or a part? -/
def holds (v : Value) (key : String) : Except ValueFault Bool :=
  match v with
  | .str text => .ok (Text.contains text key)
  | .list items => .ok (items.contains (.str key))
  | .table entries => .ok (Table.has entries key)
  | other => .error (.holdsNothing other.form)

def textFor (v : Value) (operation : String) : Except ValueFault String :=
  match v with
  | .str text => .ok text
  | other => .error (.noOperation other.form operation)

def searched : Value → Except ValueFault String
  | .str text => .ok text
  | other => .error (.notSearched other.form)

def listed (v : Value) : Except ValueFault (List Value) :=
  match v.parts? with
  | some parts => .ok parts
  | none => .error (.notListed v.form)

/-- The text under which a value is found as a key: a text is itself, and lists and tables are no
keys. -/
def keyText : Value → Except ValueFault String
  | .str text => .ok text
  | .null => .ok "null"
  | .bool b => .ok (if b then "true" else "false")
  | .int i => .ok (toString i)
  | .float text => .ok text
  | other => .error (.notKey other.form)

def atKey (v : Value) (key : String) : Except ValueFault Value :=
  match v with
  | .str _ => .error .textByKey
  | .list _ => .error .listByKey
  | .table entries =>
    match Table.get? entries key with
    | some value => .ok value
    | none => .error (.missingKey key)
  | other => .error (.notIndexed other.form)

/-! ## Documents -/

def get (v : Value) (key : String) : Value :=
  (v.field? key).getD .null

def text (v : Value) : String :=
  v.text?.getD ""

def items (v : Value) : List Value :=
  v.items?.getD []

def nat? : Value → Option Nat
  | .int (.ofNat n) => some n
  | _ => none

def textAt (v : Value) (key : String) : String :=
  (v.get key).text

def textAt? (v : Value) (key : String) : Option String :=
  (v.get key).text?

def itemsAt (v : Value) (key : String) : List Value :=
  (v.get key).items

def textsAt (v : Value) (key : String) : List String :=
  (v.itemsAt key).map text

def natAt? (v : Value) (key : String) : Option Nat :=
  (v.get key).nat?

def isSetAt (v : Value) (key : String) : Bool :=
  (v.get key).isSet

def item (v : Value) (i : Nat) : Value :=
  (v.items[i]?).getD .null

def ofText? : Option String → Value
  | some s => .str s
  | none => .null

def ofTexts (texts : List String) : Value :=
  .list (texts.map .str)

def ofNat? : Option Nat → Value
  | some n => .int n
  | none => .null

mutual

def depth : Value → Nat
  | .list xs => depthItems xs + 1
  | .table es => depthEntries es + 1
  | _ => 1

def depthItems : List Value → Nat
  | [] => 0
  | v :: vs => max (depth v) (depthItems vs)

def depthEntries : Table Value → Nat
  | [] => 0
  | (_, v) :: es => max (depth v) (depthEntries es)

end

mutual

def plain : Value → Value
  | .table [("t", .list entries)] => .table (Table.ofList (plainEntries entries))
  | .table es => .table (plainFields es)
  | .list xs => .list (plainItems xs)
  | v => v

def plainItems : List Value → List Value
  | [] => []
  | v :: vs => plain v :: plainItems vs

def plainFields : Table Value → Table Value
  | [] => []
  | (k, v) :: es => (k, plain v) :: plainFields es

def plainEntries : List Value → Table Value
  | [] => []
  | .list [.str k, v] :: es => (k, plain v) :: plainEntries es
  | _ :: es => plainEntries es

end

def entries (v : Value) : Table Value :=
  v.plain.entries?.getD []

def entriesAt (v : Value) (key : String) : Table Value :=
  (v.get key).entries

def orderedTable (entries : Table Value) : Value :=
  .table [("t", .list (entries.map fun (k, v) => .list [.str k, v]))]

mutual

def ordered : Value → Value
  | .table es => orderedTable (orderedFields es)
  | .list xs => .list (orderedItems xs)
  | v => v

def orderedItems : List Value → List Value
  | [] => []
  | v :: vs => ordered v :: orderedItems vs

def orderedFields : Table Value → Table Value
  | [] => []
  | (k, v) :: es => (k, ordered v) :: orderedFields es

end

end Value

end Oxidize
