import Oxidize.Diagnostic
import Oxidize.IR.Basic
import Oxidize.Syntax.Dump

/-!
# Type hints

A type hint is an expression of the source language. A program cannot be taken over if a hint is
missing or cannot be read, or if it uses something that has no counterpart in the target language.
-/

namespace Oxidize.Lower

inductive HintFault where
  | missing
  | missingParam
  | missingRest
  | missingNamedRest
  | constant (text : String)
  | notType (dump : String)
  | namelessBase (dump : String)
  | optionalArity
  | callableArity
  deriving DecidableEq

namespace HintFault

def message : HintFault → String
  | .missing => "Missing type annotation"
  | .missingParam => "Missing type annotation for parameter"
  | .missingRest => "Missing type annotation for *args"
  | .missingNamedRest => "Missing type annotation for **kwargs"
  | .constant text => s!"Unexpected constant in type annotation: {text}"
  | .notType dump => s!"Unsupported type annotation syntax: {dump}"
  | .namelessBase dump => s!"Unsupported generic base: {dump}"
  | .optionalArity => "Optional requires exactly one type argument"
  | .callableArity => "Callable requires at least parameter types and return type"

end HintFault

/-- What has no counterpart in the target language. -/
inductive Feature where
  | nestedFunction
  | nestedClass
  | statement (kind : String)
  | expression (kind : String)
  | binaryOperator (name : String)
  | updateOperator (name : String)
  | severalTargets
  | unpackTarget
  | assignTarget
  | hintedTarget
  | updateTarget
  | loopTarget
  | severalResources
  | resourceTarget
  | severalGenerators
  | generatorTarget
  deriving DecidableEq

namespace Feature

def description : Feature → String
  | .nestedFunction => "nested functions"
  | .nestedClass => "nested classes"
  | .statement kind => s!"statement type {kind}"
  | .expression kind => s!"expression type {kind}"
  | .binaryOperator name => s!"binary operator {name}"
  | .updateOperator name => s!"augmented assignment operator {name}"
  | .severalTargets => "multiple assignment targets"
  | .unpackTarget => "complex tuple unpacking targets"
  | .assignTarget => "complex assignment targets"
  | .hintedTarget => "complex annotated assignment targets"
  | .updateTarget => "complex augmented assignment targets"
  | .loopTarget => "complex for loop targets (use simple variable)"
  | .severalResources => "multiple context managers in single with"
  | .resourceTarget => "complex with target"
  | .severalGenerators => "multiple generators in list comprehension"
  | .generatorTarget => "complex comprehension target"

end Feature

/-- Why a source program cannot be taken over. -/
inductive LowerError where
  /-- A type hint is missing or cannot be read; `name` is what it describes. -/
  | hint (fault : HintFault) (name : Option String) (line : IR.Line)
  | unsupported (feature : Feature) (line : Nat)
  /-- The text of the program ends before the line of a definition. -/
  | textEnds
  deriving DecidableEq

namespace LowerError

def diagnostic? (filename : Option String) : LowerError → Option Diagnostic
  | .hint fault name line =>
    some { report := .typing fault.message name, filename, line := line.map Int.ofNat }
  | .unsupported feature line =>
    some { report := .unsupported feature.description none, filename, line := some line }
  | .textEnds => none

end LowerError

open Syntax (Expr)
open IR (Ty Prim)

def primOfName? : String → Option Prim
  | "int" => some .int
  | "float" => some .float
  | "str" => some .str
  | "bool" => some .bool
  | "bytes" => some .bytes
  | "None" => some .none
  | "NoneType" => some .none
  | _ => none

def genericNames : List String :=
  ["List", "list", "Dict", "dict", "Set", "set", "Tuple", "tuple", "Optional", "Result",
   "Sequence", "Mapping", "Iterable", "Iterator", "Callable", "FrozenSet", "frozenset", "Box",
   "Arc", "Rc"]

def typeOfName (name : String) : Ty :=
  match primOfName? name with
  | some p => .prim p
  | none => if genericNames.contains name then .generic name [] else .cls name none

/-- The parts of a dotted name, last part first. What the dots start from counts if it is a
name. -/
def dottedParts : Expr → List String
  | .attribute value attr _ _ => attr :: dottedParts value
  | .name id _ _ => [id]
  | _ => []

def typeOfParts (parts : List String) : Ty :=
  match parts with
  | ["typing", name] => typeOfName name
  | _ => .cls (parts.getLast?.getD "") (some (Text.join "." parts.dropLast))

def genericBase? : Expr → Option (String × Option String)
  | .name id _ _ => some (id, none)
  | .attribute (.name module _ _) attr _ _ => some (attr, some module)
  | .attribute _ attr _ _ => some (attr, none)
  | _ => none

def applied (base : String) (module : Option String) (args : List Ty) : Except HintFault Ty :=
  if base == "Optional" then
    if args.length == 1 then .ok (.generic "Optional" args) else .error .optionalArity
  else if base == "Union" then .ok (.union args none)
  else if base == "Callable" then
    if args.length < 2 then .error .callableArity else .ok (.func args.dropLast args.getLast?)
  else if genericNames.contains base then .ok (.generic base args)
  else
    match module.filter (· != "") with
    | some m => .ok (.generic s!"{m}.{base}" args)
    | none => .ok (.generic base args)

/-- A choice between types: optional if it is between nothing and one other type. -/
def choice (variants : List Ty) : Ty :=
  let others := variants.filter fun t => !t.isNone
  if others.length == 1 && variants.length == 2 then .generic "Optional" others
  else .union variants none

def isChoice : Expr → Bool
  | .binOp _ .bitOr _ _ => true
  | _ => false

/-- The variants that an operand adds to a choice: those of a choice that stayed one, or the type
itself. -/
def addedVariants (operand : Expr) (t : Ty) : List Ty :=
  match t with
  | .union variants _ => if isChoice operand then variants else [t]
  | _ => [t]

def readBase (name : Option String) (line : Nat) (value : Expr) :
    Except LowerError (String × Option String) :=
  match genericBase? value with
  | some base => .ok base
  | none => .error (.hint (.namelessBase value.dump) name line)

/-- A type with arguments, as part of the hint of the item `name`. -/
def applyBase (name : Option String) (line : Nat) (base : String × Option String)
    (args : List Ty) : Except LowerError Ty :=
  match applied base.1 base.2 args with
  | .ok t => .ok t
  | .error fault => .error (.hint fault name line)

mutual

def readHint (name : Option String) : Expr → Except LowerError Ty
  | .constant value _ line =>
    match value with
    | .none => .ok (.prim .none)
    | _ => .error (.hint (.constant value.display) name line)
  | .name id _ _ => .ok (typeOfName id)
  | .subscript value (.tuple elements _ _) _ line => do
    let base ← readBase name line value
    applyBase name line base (← readHints name elements)
  | .subscript value arg _ line => do
    let base ← readBase name line value
    applyBase name line base [← readHint name arg]
  | e@(.attribute ..) => .ok (typeOfParts (dottedParts e).reverse)
  | .binOp left .bitOr right _ => do
    let leftVariants := addedVariants left (← readHint name left)
    let rightVariants := addedVariants right (← readHint name right)
    return choice (leftVariants ++ rightVariants)
  | .tuple elements _ _ => return .generic "Tuple" (← readHints name elements)
  | e => .error (.hint (.notType e.dump) name e.line)

def readHints (name : Option String) : List Expr → Except LowerError (List Ty)
  | [] => return []
  | e :: es => do
    let t ← readHint name e
    return t :: (← readHints name es)

end

def readHint? (name : Option String) : Option Expr → Except LowerError Ty
  | some e => readHint name e
  | none => .error (.hint .missing name none)

end Oxidize.Lower
