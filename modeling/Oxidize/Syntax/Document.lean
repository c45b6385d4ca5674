import Oxidize.Syntax.Basic

/-!
# Syntax trees in documents

A node of a tree is an object: `_` names its class, `l` its line, and the other members are its
fields.
-/

namespace Oxidize.Syntax

def nodeClass (v : Value) : String :=
  v.textAt "_"

def nodeLine (v : Value) : Nat :=
  (v.natAt? "l").getD 0

def BinOp.ofName (name : String) : BinOp :=
  ([.add, .sub, .mult, .matMult, .div, .mod, .pow, .lShift, .rShift, .bitOr, .bitXor, .bitAnd,
    .floorDiv].find? fun op : BinOp => op.name == name).getD .add

def BoolOp.ofName (name : String) : BoolOp :=
  if name == "And" then .and else .or

def UnaryOp.ofName (name : String) : UnaryOp :=
  ([.invert, .not, .uAdd, .uSub].find? fun op : UnaryOp => op.name == name).getD .not

def CmpOp.ofName (name : String) : CmpOp :=
  ([.eq, .notEq, .lt, .ltE, .gt, .gtE, .is, .isNot, .mem, .notMem].find?
    fun op : CmpOp => op.name == name).getD .eq

def nodeUse (v : Value) : Use :=
  ([.store, .del].find? fun u : Use => u.name == v.textAt "ctx").getD .load

def optionalPart {α : Type} (read : Value → α) : Value → Option α
  | .null => none
  | v => some (read v)

def keywordOf (read : Value → Expr) (v : Value) : Keyword :=
  .mk (v.textAt? "arg") (read (v.get "value"))

def generatorOf (read : Value → Expr) (v : Value) : Generator :=
  .mk (read (v.get "target")) (read (v.get "iter")) ((v.itemsAt "ifs").map read)
    ((v.natAt? "is_async").getD 0)

def argOf (read : Value → Expr) (v : Value) : Arg :=
  .mk (v.textAt "arg") (optionalPart read (v.get "annotation")) (nodeLine v)

def paramsOf (read : Value → Expr) (v : Value) : Params :=
  let args (key : String) : List Arg := (v.itemsAt key).map (argOf read)
  .mk (args "posonlyargs") (args "args") (optionalPart (argOf read) (v.get "vararg"))
    (args "kwonlyargs") ((v.itemsAt "kw_defaults").map (optionalPart read))
    (optionalPart (argOf read) (v.get "kwarg")) ((v.itemsAt "defaults").map read)

def exprOf : Nat → Value → Expr
  | 0, _ => default
  | fuel + 1, v =>
    let line := nodeLine v
    let part (key : String) : Expr := exprOf fuel (v.get key)
    let part? (key : String) : Option Expr := optionalPart (exprOf fuel) (v.get key)
    let parts (key : String) : List Expr := (v.itemsAt key).map (exprOf fuel)
    let generators := (v.itemsAt "generators").map (generatorOf (exprOf fuel))
    match nodeClass v with
    | "BoolOp" => .boolOp (.ofName (v.textAt "op")) (parts "values") line
    | "NamedExpr" => .namedExpr (part "target") (part "value") line
    | "BinOp" => .binOp (part "left") (.ofName (v.textAt "op")) (part "right") line
    | "UnaryOp" => .unaryOp (.ofName (v.textAt "op")) (part "operand") line
    | "Lambda" => .lambda (paramsOf (exprOf fuel) (v.get "args")) (part "body") line
    | "IfExp" => .ifExp (part "test") (part "body") (part "orelse") line
    | "Dict" =>
      let keys := (v.itemsAt "keys").map (optionalPart (exprOf fuel))
      .dict (keys.zip (parts "values")) line
    | "Set" => .set (parts "elts") line
    | "ListComp" => .listComp (part "elt") generators line
    | "SetComp" => .setComp (part "elt") generators line
    | "DictComp" => .dictComp (part "key") (part "value") generators line
    | "GeneratorExp" => .generatorExp (part "elt") generators line
    | "Await" => .await (part "value") line
    | "Yield" => .yield (part? "value") line
    | "YieldFrom" => .yieldFrom (part "value") line
    | "Compare" =>
      .compare (part "left") (((v.textsAt "ops").map CmpOp.ofName).zip (parts "comparators")) line
    | "Call" =>
      .call (part "func") (parts "args") ((v.itemsAt "keywords").map (keywordOf (exprOf fuel))) line
    | "FormattedValue" =>
      let conversion : Int := match v.natAt? "conversion" with
        | some n => n
        | none => -1
      .formattedValue (part "value") conversion (part? "format_spec") line
    | "JoinedStr" => .joinedStr (parts "values") line
    | "Constant" => .constant (.ofDocument (v.get "value")) (v.textAt? "kind") line
    | "Attribute" => .attribute (part "value") (v.textAt "attr") (nodeUse v) line
    | "Subscript" => .subscript (part "value") (part "slice") (nodeUse v) line
    | "Starred" => .starred (part "value") (nodeUse v) line
    | "List" => .list (parts "elts") (nodeUse v) line
    | "Tuple" => .tuple (parts "elts") (nodeUse v) line
    | "Slice" => .slice (part? "lower") (part? "upper") (part? "step") line
    | _ => .name (v.textAt "id") (nodeUse v) line

def patternExprs : Nat → Value → List Expr
  | 0, _ => []
  | fuel + 1, v =>
    let part (key : String) : List Expr := [exprOf fuel (v.get key)]
    let below (key : String) : List Expr := (v.itemsAt key).flatMap (patternExprs fuel)
    match nodeClass v with
    | "MatchValue" => part "value"
    | "MatchClass" => part "cls" ++ below "patterns" ++ below "kwd_patterns"
    | "MatchMapping" => (v.itemsAt "keys").map (exprOf fuel) ++ below "patterns"
    | "MatchAs" => ((optionalPart (patternExprs fuel) (v.get "pattern")).toList).flatten
    | _ => below "patterns"

def importedNames (v : Value) : Table (Option String) :=
  (v.itemsAt "names").map fun n => (n.textAt "name", n.textAt? "asname")

def stmtOf : Nat → Value → Stmt
  | 0, _ => default
  | fuel + 1, v =>
    let line := nodeLine v
    let part (key : String) : Expr := exprOf fuel (v.get key)
    let part? (key : String) : Option Expr := optionalPart (exprOf fuel) (v.get key)
    let parts (key : String) : List Expr := (v.itemsAt key).map (exprOf fuel)
    let body (n : Value) : List Stmt := (n.itemsAt "body").map (stmtOf fuel)
    let block (key : String) : List Stmt := (v.itemsAt key).map (stmtOf fuel)
    let resources := (v.itemsAt "items").map fun i =>
      (exprOf fuel (i.get "context_expr"), optionalPart (exprOf fuel) (i.get "optional_vars"))
    match nodeClass v with
    | "FunctionDef" | "AsyncFunctionDef" =>
      .functionDef (nodeClass v == "AsyncFunctionDef") (v.textAt "name")
        (paramsOf (exprOf fuel) (v.get "args")) (block "body") (parts "decorator_list")
        (part? "returns") line
    | "ClassDef" =>
      .classDef (v.textAt "name") (parts "bases")
        ((v.itemsAt "keywords").map (keywordOf (exprOf fuel))) (block "body")
        (parts "decorator_list") line
    | "Return" => .ret (part? "value") line
    | "Assign" => .assign (parts "targets") (part "value") line
    | "AnnAssign" => .annAssign (part "target") (part "annotation") (part? "value") line
    | "AugAssign" => .augAssign (part "target") (.ofName (v.textAt "op")) (part "value") line
    | "For" => .forLoop (part "target") (part "iter") (block "body") (block "orelse") line
    | "While" => .whileLoop (part "test") (block "body") (block "orelse") line
    | "If" => .ifStmt (part "test") (block "body") (block "orelse") line
    | "With" => .withStmt resources (block "body") line
    | "Raise" => .raise (part? "exc") (part? "cause") line
    | "Try" =>
      let handlers := (v.itemsAt "handlers").map fun h =>
        (optionalPart (exprOf fuel) (h.get "type"), h.textAt? "name", body h)
      .tryStmt (block "body") handlers (block "orelse") (block "finalbody") line
    | "Import" => .importNames (importedNames v) line
    | "ImportFrom" => .importFrom (v.textAt? "module") (importedNames v) line
    | "Expr" => .expr (part "value") line
    | "Pass" => .pass line
    | "Break" => .breakLoop line
    | "Continue" => .continueLoop line
    | "AsyncFor" =>
      .other "AsyncFor" [part "target", part "iter"] [block "body", block "orelse"] line
    | "AsyncWith" =>
      .other "AsyncWith" (resources.flatMap fun (e, t) => e :: t.toList) [block "body"] line
    | "Match" =>
      let cases := v.itemsAt "cases"
      let exprs := cases.flatMap fun c =>
        patternExprs fuel (c.get "pattern") ++ (optionalPart (exprOf fuel) (c.get "guard")).toList
      .other "Match" (part "subject" :: exprs) (cases.map body) line
    | "TryStar" =>
      let handlers := v.itemsAt "handlers"
      .other "TryStar"
        (handlers.filterMap fun h => optionalPart (exprOf fuel) (h.get "type"))
        (block "body" :: handlers.map body ++ [block "orelse", block "finalbody"]) line
    | "Assert" => .other "Assert" (part "test" :: (part? "msg").toList) [] line
    | "Delete" => .other "Delete" (parts "targets") [] line
    | kind => .other kind [] [] line

def exprClasses : List String :=
  ["BoolOp", "NamedExpr", "BinOp", "UnaryOp", "Lambda", "IfExp", "Dict", "Set", "ListComp",
   "SetComp", "DictComp", "GeneratorExp", "Await", "Yield", "YieldFrom", "Compare", "Call",
   "FormattedValue", "JoinedStr", "Constant", "Attribute", "Subscript", "Starred", "Name", "List",
   "Tuple", "Slice"]

def Expr.ofDocument (v : Value) : Expr :=
  exprOf v.depth v

def Stmt.ofDocument (v : Value) : Stmt :=
  stmtOf v.depth v

def moduleOf (v : Value) : List Stmt :=
  (v.itemsAt "body").map Stmt.ofDocument

end Oxidize.Syntax
