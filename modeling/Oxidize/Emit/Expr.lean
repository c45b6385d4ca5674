import Oxidize.Emit.Method

/-!
# Expressions

An operation with two operands is written by rules on the written operands: lengths are compared
without a conversion and against zero by asking for emptiness, membership swaps the operands, a
comparison with nothing asks the option, and texts are joined by formatting them.
-/

namespace Oxidize.Emit

/-! ## Operations -/

open IR (Expr BinOp UnOp)

def symbol? : BinOp → Option String
  | .add => some "+"
  | .sub => some "-"
  | .mul => some "*"
  | .div => some "/"
  | .mod => some "%"
  | .eq => some "=="
  | .ne => some "!="
  | .lt => some "<"
  | .le => some "<="
  | .gt => some ">"
  | .ge => some ">="
  | .and => some "&&"
  | .or => some "||"
  | .bitAnd => some "&"
  | .bitOr => some "|"
  | .bitXor => some "^"
  | .lshift => some "<<"
  | .rshift => some ">>"
  | .floorDiv | .pow | .mem | .notMem | .is | .isNot => none

def unarySymbol : UnOp → String
  | .neg => "-"
  | .pos => "+"
  | .not => "!"
  | .bitNot => "!"

def isComparison : BinOp → Bool
  | .lt | .le | .gt | .ge | .eq | .ne => true
  | _ => false

def isOwnedText (code : String) : Bool :=
  Text.endsWith code Template.ownedSuffix

/-- A comparison of the place of a text inside another with the bound that tells whether it was
found. -/
def searchComparison (op : BinOp) (bound obj arg : String) : Option String :=
  let found := s!"{obj}.contains({arg})"
  if bound == "0" then
    match op with
    | .ge => some found
    | .lt => some s!"!{found}"
    | _ => none
  else if bound == "-1" then
    match op with
    | .ne => some found
    | .eq => some s!"!{found}"
    | _ => none
  else none

/-- Does a comparison of a length with the constant on its right ask for something empty, or for
something that is not? -/
def askedLeft (op : BinOp) (isZero isOne : Bool) : Option Bool :=
  if isZero then
    match op with
    | .gt | .ne => some false
    | .eq => some true
    | _ => none
  else if isOne && op == .ge then some false
  else none

/-- Does a comparison of a length with the constant on its left ask for something empty, or for
something that is not? -/
def askedRight (op : BinOp) (isZero : Bool) : Option Bool :=
  if isZero then
    match op with
    | .lt => some false
    | .eq => some true
    | _ => none
  else none

/-- The question whether a collection is empty, or whether it is not. -/
def emptyQuestion (receiver : String) (empty : Bool) : String :=
  if empty then receiver ++ ".is_empty()" else "!" ++ receiver ++ ".is_empty()"

def emptyComparison (op : BinOp) (left right : String) : Option String :=
  ((lengthReceiver? left).bind fun x =>
    (askedLeft op (right == "0") (right == "1")).map (emptyQuestion x)) <|>
  ((lengthReceiver? right).bind fun x => (askedRight op (left == "0")).map (emptyQuestion x))

def lengthComparison (op : BinOp) (leftExpr rightExpr : Expr) (left right : String) :
    Option String :=
  if isComparison op then
    let sign := (symbol? op).getD "<"
    match leftExpr.name?, lengthReceiver? right, rightExpr.name?, lengthReceiver? left with
    | some _, some receiver, _, _ => some s!"({left} as usize) {sign} {receiver}.len()"
    | _, _, some _, some receiver => some s!"{receiver}.len() {sign} ({right} as usize)"
    | _, _, _, _ => none
  else none

def wordOperation (op : BinOp) (leftExpr : Expr) (left right : String) : Option String :=
  match op with
  | .floorDiv => some s!"{left} / {right}"
  | .mem => some s!"{right}.contains(&{left})"
  | .notMem => some s!"!{right}.contains(&{left})"
  | .is =>
    some (if right == "None" then s!"{left}.is_none()" else s!"std::ptr::eq(&{left}, &{right})")
  | .isNot =>
    some (if right == "None" then s!"{left}.is_some()" else s!"!std::ptr::eq(&{left}, &{right})")
  | .pow =>
    some (if leftExpr.isBinary then s!"(({left}) as f64).powf({right} as f64)"
      else s!"({left} as f64).powf({right} as f64)")
  | .add =>
    if isOwnedText left || isOwnedText right then
      some ("format!(\"\x7b\x7d\x7b\x7d\", " ++ left ++ ", " ++ right ++ ")")
    else none
  | _ => none

def wrapped (code : String) : String :=
  if code == "None" || Text.startsWith code "Some(" then code else s!"Some({code})"

/-- The operands of a comparison for equality, the one that meets an optional variable wrapped. -/
def equated (c : Context) (leftExpr rightExpr : Expr) (left right : String) : String × String :=
  let isOption (e : Expr) : Bool := match e.name? with
    | some n => c.optionVars.contains n
    | none => false
  if isOption leftExpr then (left, wrapped right)
  else if isOption rightExpr then (wrapped left, right)
  else (left, right)

def enclosed (e : Expr) (code : String) : String :=
  if e.isBinary then s!"({code})" else code

def symbolOperation (c : Context) (op : BinOp) (leftExpr rightExpr : Expr) (left right : String) :
    String :=
  let (left, right) := match op with
    | .eq | .ne => equated c leftExpr rightExpr left right
    | _ => (left, right)
  let sign := (symbol? op).getD "+"
  s!"{enclosed leftExpr left} {sign} {enclosed rightExpr right}"

def joinsPath (c : Context) (op : BinOp) (left : Expr) : Bool :=
  op == .div && left.name?.any c.isPathVar

def operation (c : Context) (op : BinOp) (leftExpr rightExpr : Expr) (left right : String) :
    String :=
  if joinsPath c op leftExpr then s!"{left}.join({right})"
  else
    ((emptyComparison op left right
      <|> lengthComparison op leftExpr rightExpr left right)
      <|> wordOperation op leftExpr left right).getD
      (symbolOperation c op leftExpr rightExpr left right)

/-! ## Expressions -/

open IR (Expr)

/-- A value that is awaited: what handles its result comes after the wait. -/
def awaited (code : String) : String :=
  match Text.dropSuffix? code ".unwrap()" with
  | some inner => s!"{inner}.await.unwrap()"
  | none =>
    match Text.dropSuffix? code "?" with
    | some inner => s!"{inner}.await?"
    | none => s!"{code}.await"

def formatCall (parts : Table (Option String)) : String :=
  let format := String.join (parts.map Prod.fst)
  let args := parts.filterMap Prod.snd
  if args.isEmpty then s!"\"{format}\".to_string()"
  else s!"format!(\"{format}\", {Text.commas args})"

def comprehension (source target element : String) (conditions : List String) : String :=
  let filters := conditions.map fun cond => s!".filter(|{target}| {cond})"
  s!"{source}.into_iter(){String.join filters}.map(|{target}| {element}).collect::<Vec<_>>()"

def unsupported (kind : String) : String :=
  s!"/* unsupported: {kind} */"

/-- A search for a text inside another, written as the question that its comparison with a bound
asks. -/
def comparedSearch (op : IR.BinOp) (parts : Option (Emit String × Emit String))
    (emitBound : Emit String) : Emit (Option String) := do
  match parts with
  | some (emitObj, emitArg) =>
    let bound ← emitBound
    if bound == "0" || bound == "-1" then
      let obj ← emitObj
      let arg ← emitArg
      return searchComparison op bound obj arg
    else return none
  | none => return none

def bound (e : Expr) (emitBound : Emit String) : Emit String :=
  if e.isAbsent then return "" else emitBound

mutual

def expr : Expr → Emit String
  | .absent => return "()"
  | .literal value _ => return literalText value
  | .name n _ => nameValue n
  | .binary op left right _ => do
    if let some code ← comparedSearch op (searched left) (expr right) then return code
    let leftCode ← expr left
    let rightCode ← expr right
    return operation (← context) op left right leftCode rightCode
  | .unary op operand _ => return unarySymbol op ++ (← expr operand)
  | .call func args kwargs _ => do
    let texts ← exprs args
    call func (expr func) args texts (namedExprs kwargs)
  | .method obj method args kwargs _ => do
    let texts ← exprs args
    MethodCall.emit ⟨obj, expr obj, method, args, texts, namedExprs kwargs⟩
  | .attr obj member _ => field obj (expr obj) member
  | .subscript obj (.slice lower upper _ _) _ => do
    let objCode ← expr obj
    let lowerCode ← bound lower (expr lower)
    let upperCode ← bound upper (expr upper)
    return slice objCode lower upper lowerCode upperCode
  | .subscript obj index _ => do
    let objCode ← expr obj
    let indexCode ← expr index
    return item (← context) obj index objCode indexCode
  | .list elements _ => return s!"vec![{Text.commas (← exprs elements)}]"
  | .dict entries _ => do
    if entries.isEmpty then return "HashMap::new()"
    else return s!"HashMap::from([{Text.commas (← pairs entries)}])"
  | .set elements _ => return s!"HashSet::from([{Text.commas (← exprs elements)}])"
  | .tuple elements _ => return s!"({Text.commas (← exprs elements)})"
  | .ifExp condition yes no _ => do
    let cond ← expr condition
    let yesCode ← expr yes
    let noCode ← expr no
    return "if " ++ cond ++ " \x7b " ++ yesCode ++ " \x7d else \x7b " ++ noCode ++ " \x7d"
  | .listComp element target source conditions _ => do
    let sourceCode ← expr source
    let elementCode ← expr element
    return comprehension sourceCode target elementCode (← exprs conditions)
  | .fstring parts _ => return formatCall (← formatParts parts)
  | .await value _ => return awaited (← expr value)
  | .other kind _ => return unsupported kind
  | .slice .. => return unsupported "IRSlice"
  | .formatted .. => return unsupported "IRFormattedValue"
termination_by structural e => e

def exprs : List Expr → Emit (List String)
  | [] => return []
  | e :: es => do
    let code ← expr e
    return code :: (← exprs es)

def pairs : List (Expr × Expr) → Emit (List String)
  | [] => return []
  | (key, value) :: entries => do
    let keyCode ← expr key
    let valueCode ← expr value
    return s!"({keyCode}, {valueCode})" :: (← pairs entries)

def namedExprs : Table Expr → List (String × Emit String)
  | [] => []
  | (name, value) :: others => (name, expr value) :: namedExprs others

/-- The parts of a search for a text inside another: the receiver and what is searched. -/
def searched : Expr → Option (Emit String × Emit String)
  | .method obj method [] _ _ =>
    if method == "find" then some (expr obj, return "\"\"") else none
  | .method obj method (arg :: _) _ _ =>
    if method == "find" then some (expr obj, return Template.borrow (← expr arg)) else none
  | _ => none

/-- The parts of a format string: fixed text, or a hole and the value that goes there. -/
def formatParts : List Expr → Emit (Table (Option String))
  | [] => return []
  | .literal (.str s) _ :: parts => return (escapeFormat s, none) :: (← formatParts parts)
  | .formatted value spec _ :: parts => do
    let code ← expr value
    return (formatHole spec, some code) :: (← formatParts parts)
  | part :: parts => do
    let code ← expr part
    return (formatHole "", some code) :: (← formatParts parts)

end

end Oxidize.Emit
