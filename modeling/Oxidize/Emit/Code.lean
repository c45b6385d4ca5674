import Oxidize.IR.Basic

/-!
# Written code

The body of a written function is a tree of statements, some of which hold blocks.
-/

namespace Oxidize

structure Written where
  source : IR.Expr
  /-- The variables that were taken as something where it was written. -/
  narrowed : NameSet
  text : String
  deriving BEq

def Written.ofText (text : String) : Written :=
  ⟨.absent, [], text⟩

/-- The ways in which written code gives a name to a value. -/
inductive Binder where
  | parameter
  | declaration
  | unpacking
  | hoisting
  | resource
  | loop
  | comprehension
  | something
  | success
  | failure
  deriving BEq, DecidableEq

structure Binding where
  binder : Binder
  name : String
  deriving DecidableEq

inductive Head where
  | test (condition : Written)
  /-- The variables that the condition checks are taken out of their options. -/
  | pattern (condition : IR.Expr) (vars : List String)
  deriving BEq

namespace Head

def source : Head → IR.Expr
  | .test condition => condition.source
  | .pattern condition _ => condition

def binds : Head → List Binding
  | .test _ => []
  | .pattern _ vars => vars.map (⟨.something, ·⟩)

def text : Head → String
  | .test condition => s!"if {condition.text}"
  | .pattern _ [v] => s!"if let Some({v}) = {v}"
  | .pattern _ vars =>
    let patterns := Text.commas (vars.map fun v => s!"Some({v})")
    s!"if let ({patterns}) = ({Text.commas vars})"

end Head

inductive Code where
  /-- A line that neither binds nor assigns a variable. -/
  | line (parts : List Written) (text : String)
  /-- `let mut name;` in front of a choice that assigns the variable. -/
  | hoist (name : String) (type : Option String)
  /-- `let name = value;`, where the name stands for a variable of the program, if for any. -/
  | declare (binder : Binder) (source? : Option String) (isMut : Bool) (name : String)
      (type : Option String) (value : Option Written)
  /-- `let (a, mut b) = value;` -/
  | unpack (targets : List (String × Bool)) (types : Option (List String)) (value : Written)
  | assign (name sign : String) (value : Written)
  | leave (parts : List Written) (text : String)
  | breakLoop
  | continueLoop
  /-- A choice; its last block is empty if it has none. -/
  | choice (branches : List (Head × List Code)) (otherwise : List Code)
  | whileLoop (condition : Written) (body : List Code)
  /-- `for name in items`, where the name stands for a variable of the program. -/
  | forLoop (target name : String) (items : Written) (body : List Code)
  | scope (body : List Code) (remark : String)
  | attempt (call : Written) (value : Option (String × Bool)) (okBody : List Code)
      (error : String) (errBody : List Code)
  deriving Inhabited

abbrev Branch := Head × List Code

namespace Code

def margin (depth : Nat) : String :=
  Text.times "    " depth

def opening : String := " \x7b"

def closing : String := "\x7d"

def mutMark (isMut : Bool) : String :=
  if isMut then "mut " else ""

def typeMark (type : Option String) : String :=
  match type with
  | some t => s!": {t}"
  | none => ""

def declareText (isMut : Bool) (name : String) (type : Option String) (value : Option Written) :
    String :=
  let start := s!"let {mutMark isMut}{name}{typeMark type}"
  match value with
  | some w => s!"{start} = {w.text};"
  | none => s!"{start};"

def unpackText (targets : List (String × Bool)) (types : Option (List String)) (value : Written) :
    String :=
  let names := Text.commas (targets.map fun (name, isMut) => mutMark isMut ++ name)
  match types with
  | some types => s!"let ({names}): ({Text.commas types}) = {value.text};"
  | none => s!"let ({names}) = {value.text};"

def successPattern (value : Option (String × Bool)) : String :=
  match value with
  | some (name, isMut) => mutMark isMut ++ name
  | none => "_"

mutual

def lines (depth : Nat) : Code → List String
  | .line _ text => [margin depth ++ text]
  | .hoist name type => [margin depth ++ declareText true name type none]
  | .declare _ _ isMut name type value => [margin depth ++ declareText isMut name type value]
  | .unpack targets types value => [margin depth ++ unpackText targets types value]
  | .assign name sign value => [margin depth ++ s!"{name} {sign} {value.text};"]
  | .leave _ text => [margin depth ++ text]
  | .breakLoop => [margin depth ++ "break;"]
  | .continueLoop => [margin depth ++ "continue;"]
  | .choice branches otherwise =>
    branchLines depth "" branches
      ++ (if otherwise.isEmpty then []
        else (margin depth ++ closing ++ " else" ++ opening) :: blockLines (depth + 1) otherwise)
      ++ [margin depth ++ closing]
  | .whileLoop condition body =>
    (margin depth ++ s!"while {condition.text}" ++ opening) :: blockLines (depth + 1) body
      ++ [margin depth ++ closing]
  | .forLoop _ name items body =>
    (margin depth ++ s!"for {name} in {items.text}" ++ opening) :: blockLines (depth + 1) body
      ++ [margin depth ++ closing]
  | .scope body remark =>
    (margin depth ++ "\x7b") :: blockLines (depth + 1) body
      ++ [margin depth ++ closing ++ remark]
  | .attempt call value okBody error errBody =>
    let inner := margin (depth + 1)
    (margin depth ++ s!"match {call.text}" ++ opening)
      :: (inner ++ s!"Ok({successPattern value}) =>" ++ opening)
      :: blockLines (depth + 2) okBody
      ++ [inner ++ closing, inner ++ s!"Err({error}) =>" ++ opening]
      ++ blockLines (depth + 2) errBody
      ++ [inner ++ closing, margin depth ++ closing]

def blockLines (depth : Nat) : List Code → List String
  | [] => []
  | c :: cs => c.lines depth ++ blockLines depth cs

/-- The lines of the branches of a choice, the first of them begun by `start`. -/
def branchLines (depth : Nat) (start : String) : List Branch → List String
  | [] => []
  | (head, body) :: branches =>
    (margin depth ++ start ++ head.text ++ opening) :: blockLines (depth + 1) body
      ++ branchLines depth (closing ++ " else ") branches

end

def blockText (depth : Nat) (body : List Code) : String :=
  Text.join "\n" (blockLines depth body)

end Code

end Oxidize
