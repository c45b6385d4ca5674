import Oxidize.Emit.Code
import Oxidize.Emit.Expr

/-!
# Assignments

The first assignment to a variable declares it, unless a declaration was already written before a
choice that assigns it.
-/

namespace Oxidize

open IR (Expr Stmt BinOp Ty)

def Emit.typeName? : Ty → Option String
  | .cls name module =>
    match module.filter (· != "") with
    | some m => some s!"{m}.{name}"
    | none => some name
  | .generic name [] => some name
  | .generic name (arg :: _) => if name == "Optional" then Emit.typeName? arg else some name
  | _ => none

namespace Facts

def noteType (facts : Facts) (target : String) (annot : Ty) : Facts :=
  match (Emit.typeName? annot).filter (· != "") with
  | some type => { facts with typeEnv := facts.typeEnv.set target type }
  | none => facts

/-- Note the type of a variable that is given a value of a native type without an annotation. -/
def noteNativeType (facts : Facts) (target : String) (value : Expr) : Facts :=
  match value with
  | .method obj method _ _ _ =>
    match obj.name?.filter facts.nativeImports.has with
    | some owner => { facts with typeEnv := facts.typeEnv.set target owner }
    | none =>
      match ((facts.nativeMethod? obj method).bind fun m => m.returns.text?).filter (· != "") with
      | some type =>
        { facts with
          typeEnv := facts.typeEnv.set target type
          nativeTypes := facts.nativeTypes.add type }
      | none => facts
  | _ => facts

/-- What is known after the value of an assignment, before its target is declared: a value of a
native type tells the type of a target that has no annotation. -/
def noteValue (facts : Facts) (target : String) (value : Expr) (annot : Option Ty) : Facts :=
  if annot.isNone then facts.noteNativeType target value else facts

/-- The name under which a local variable is declared: with an underscore in front if it is
assigned once and never read. -/
def bindingName (facts : Facts) (name : String) : String :=
  if Text.startsWith name "_" || facts.hoisted.contains name
      || (facts.assignmentCounts.get? name).getD 0 != 1 || facts.readVars.contains name then name
  else s!"_{name}"

end Facts

namespace Emit

def written (e : Expr) : Emit Written := do
  let narrowed := (← context).narrowed
  return ⟨e, narrowed, ← expr e⟩

def arithmeticUpdate? : BinOp → Option String
  | .add => some "+="
  | .sub => some "-="
  | .mul => some "*="
  | .div => some "/="
  | .mod => some "%="
  | _ => none

def update? : BinOp → Option String
  | .bitAnd => some "&="
  | .bitOr => some "|="
  | .bitXor => some "^="
  | .lshift => some "<<="
  | .rshift => some ">>="
  | op => arithmeticUpdate? op

/-- What an assignment to a declared variable writes behind its target: the sign, and the value or
the operand that the value adds to the target. -/
def updateParts (target : String) (value : Expr) : String × Expr :=
  match value with
  | .binary op (.name n _) right _ =>
    match (update? op).filter fun _ => n == target with
    | some sign => (sign, right)
    | none => ("=", value)
  | _ => ("=", value)

def declaredMut (c : Context) (target binding : String) (mutable : Bool) : Bool :=
  binding == target && (mutable || c.mutVars.contains target)

def declareLater (target : String) (annot : Ty) (mutable : Bool) : Emit Code := do
  let binding := (← context).bindingName target
  let type ← resolve annot
  learn fun facts => facts.noteType target annot
  let isMut := declaredMut (← context) target binding mutable
  return .declare .declaration (some target) isMut binding (some type.render) none

def expectType (annot : Option Ty) : Emit Unit := do
  match annot with
  | some t =>
    let type ← resolve t
    change fun c => { c with targetType := some type.render, storesResult := t.isResult }
  | none => change fun c => { c with targetType := none, storesResult := true }

def declaredValue (value : Expr) (annot : Option Ty) : Emit Written := do
  expectType annot
  let code ← written value
  change fun c => { c with targetType := none, storesResult := false }
  return code

def noteOption (target : String) (isOption : Bool) : Emit Unit :=
  if isOption then change fun c => { c with optionVars := c.optionVars.add target } else return ()

/-- The type and the value of a declaration with an annotation: nothing makes the type optional,
and a value of an optional type is wrapped unless a call yields it. -/
def typedParts (type : RustType) (value : Expr) (code : String) : String × String :=
  let isOption := type.name == "Option"
  if code == "None" then (if isOption then type.render else s!"Option<{type.render}>", code)
  else if isOption && !value.isCall then (type.render, s!"Some({code})")
  else (type.render, code)

def typedDeclaration (target : String) (value : Expr) (code : String) (annot : Ty) :
    Emit (String × String) := do
  let type ← resolve annot
  learn fun facts => facts.noteType target annot
  noteOption target (type.name == "Option" || code == "None")
  return typedParts type value code

def declare (target : String) (value : Expr) (annot : Option Ty) (mutable : Bool) :
    Emit Code := do
  let binding := (← context).bindingName target
  let w ← declaredValue value annot
  let isMut := declaredMut (← context) target binding mutable
  match annot with
  | some t =>
    let (type, text) ← typedDeclaration target value w.text t
    return .declare .declaration (some target) isMut binding (some type) (some { w with text })
  | none => return .declare .declaration (some target) isMut binding none (some w)

def assign (target : String) (value : Expr) (annot : Option Ty) (declares mutable : Bool) :
    Emit Code := do
  learn fun facts => facts.noteValue target value annot
  if declares then
    if (← context).hoisted.contains target then return .assign target "=" (← written value)
    else
      match value, annot with
      | .absent, some t => declareLater target t mutable
      | _, _ => declare target value annot mutable
  else
    let (sign, operand) := updateParts target value
    return .assign target sign (← written operand)

def unpackTargets (targets : List String) (mutables : List Bool) : List (String × Bool) :=
  targets.zipIdx.map fun (target, i) => (target, (mutables[i]?).getD false)

def unpackTypes (targets : List String) (annots : List (Option Ty)) : Emit (List String) :=
  targets.zipIdx.mapM fun (_, i) => do
    match (annots[i]?).getD none with
    | some t => return (← resolve t).render
    | none => return "_"

def tupleUnpack (targets : List String) (value : Expr) (annots : List (Option Ty))
    (mutables : List Bool) : Emit Code := do
  let w ← written value
  let marked := unpackTargets targets mutables
  if annots.any Option.isSome then return .unpack marked (some (← unpackTypes targets annots)) w
  else return .unpack marked none w

/-- What an assignment to a field writes behind its target: the sign of an update of a field of the
receiver with the operand, or nothing but the value. -/
def fieldUpdate? (member : String) (value : Expr) : Option (String × Expr) :=
  match value with
  | .binary op (.attr (.name owner _) updated _) right _ =>
    ((arithmeticUpdate? op).filter fun _ => owner == "self" && updated == member).map (·, right)
  | _ => none

def attrAssign (obj : Expr) (member : String) (value : Expr) : Emit Code := do
  let target ← written obj
  match fieldUpdate? member value with
  | some (sign, right) =>
    let w ← written right
    return .line [target, w] s!"self.{member} {sign} {w.text};"
  | none =>
    let w ← written value
    return .line [target, w] s!"{target.text}.{member} = {w.text};"

def subscriptAssign (obj index value : Expr) : Emit Code := do
  let target ← written obj
  let key ← written index
  let w ← written value
  let container := obj.name?.bind (← context).typeEnv.get?
  if container == some "dict" || container == some "Dict" then
    return .line [target, key, w] s!"{target.text}.insert({key.text}, {w.text});"
  else
    let isNumber := Text.isDigits (Text.trimStartWhile key.text (· == '-'))
    let place := if isNumber then key.text else s!"{key.text} as usize"
    return .line [target, key, w] s!"{target.text}[{place}] = {w.text};"

def isEmptyList : Expr → Bool
  | .list elements _ => elements.isEmpty
  | .call (.name func _) args kwargs _ => func == "list" && args.isEmpty && kwargs.isEmpty
  | _ => false

/-- The value that a statement pushes to the list `target`. -/
def pushed? (target : String) : Stmt → Option Expr
  | .expr (.method (.name obj _) method [arg] [] _) _ =>
    if obj == target && (method == "append" || method == "push") then some arg else none
  | _ => none

def pushedValues (target : String) : List Stmt → List Expr
  | [] => []
  | s :: rest =>
    match pushed? target s with
    | some value => value :: pushedValues target rest
    | none => []

/-- A declaration of an empty list that the statements after it fill. -/
structure Filling where
  target : String
  elements : List Expr
  annot : Option Ty
  line : IR.Line

/-- The declaration of a list that the statements after it fill, if the statement is one. -/
def filling? (s : Stmt) (following : List Stmt) : Option Filling :=
  match s with
  | .assign target value annot true _ line =>
    let elements := pushedValues target following
    if !isEmptyList value || elements.isEmpty then none
    else some { target, elements, annot, line }
  | _ => none

/-- What is known while a list that is filled at once is declared: if the statements after the
pushes do not read it, it counts as not read. -/
def fillingFacts (facts : Facts) (target : String) (later : List Stmt) : Facts :=
  if IR.blockReadsVar later target then facts
  else { facts with readVars := facts.readVars.discard target }

/-- A declaration of an empty list that is filled at once, written with its elements, and the
number of statements that filled it. -/
def filledList? (s : Stmt) (following : List Stmt) : Emit (Option (Code × Nat)) := do
  match filling? s following with
  | some fill =>
    let later := following.drop fill.elements.length
    let keepsMut := IR.blockMutates fill.target later
    let before := (← context).readVars
    change fun c => if keepsMut then c else { c with mutVars := c.mutVars.discard fill.target }
    learn fun facts => fillingFacts facts fill.target later
    let code ← assign fill.target (.list fill.elements fill.line) fill.annot true keepsMut
    learn fun facts => { facts with readVars := before }
    return some (code, fill.elements.length)
  | none => return none

end Emit

end Oxidize
