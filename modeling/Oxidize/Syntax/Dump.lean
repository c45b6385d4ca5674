import Oxidize.Syntax.Basic

/-!
# Spelled-out syntax trees

A syntax tree written with the kind of every node and the names of its fields, as messages about
type hints quote it.
-/

namespace Oxidize.Syntax

def node (kind : String) (fields : Table String) : String :=
  let parts := fields.map fun (name, value) => s!"{name}={value}"
  s!"{kind}({Text.commas parts})"

def dumpList (items : List String) : String :=
  s!"[{Text.commas items}]"

def optionField (name : String) (value : Option String) : Table String :=
  match value with
  | some text => [(name, text)]
  | none => []

def dumpMark (name : String) : String :=
  s!"{name}()"

def dumpUse (use : Use) : String × String :=
  ("ctx", dumpMark use.name)

mutual

def Expr.dump (e : Expr) : String :=
  node e.kind <| match e with
  | .boolOp op values _ => [("op", dumpMark op.name), ("values", dumpList (dumpAll values))]
  | .namedExpr target value _ => [("target", target.dump), ("value", value.dump)]
  | .binOp left op right _ =>
    [("left", left.dump), ("op", dumpMark op.name), ("right", right.dump)]
  | .unaryOp op operand _ => [("op", dumpMark op.name), ("operand", operand.dump)]
  | .lambda params body _ => [("args", params.dump), ("body", body.dump)]
  | .ifExp test body orelse _ =>
    [("test", test.dump), ("body", body.dump), ("orelse", orelse.dump)]
  | .dict entries _ =>
    [("keys", dumpList (dumpKeys entries)), ("values", dumpList (dumpValues entries))]
  | .set elements _ => [("elts", dumpList (dumpAll elements))]
  | .listComp element generators _ | .setComp element generators _
  | .generatorExp element generators _ =>
    [("elt", element.dump), ("generators", dumpList (dumpGenerators generators))]
  | .dictComp key value generators _ =>
    [("key", key.dump), ("value", value.dump),
      ("generators", dumpList (dumpGenerators generators))]
  | .await value _ | .yieldFrom value _ => [("value", value.dump)]
  | .yield value _ => optionField "value" (dumpOption value)
  | .compare left links _ =>
    [("left", left.dump), ("ops", dumpList (links.map fun l => dumpMark l.1.name)),
      ("comparators", dumpList (dumpLinks links))]
  | .call func args keywords _ =>
    [("func", func.dump), ("args", dumpList (dumpAll args)),
      ("keywords", dumpList (dumpKeywords keywords))]
  | .formattedValue value conversion spec _ =>
    [("value", value.dump), ("conversion", toString conversion)]
      ++ optionField "format_spec" (dumpOption spec)
  | .joinedStr values _ => [("values", dumpList (dumpAll values))]
  | .constant value kind _ =>
    ("value", value.source) :: optionField "kind" (kind.map Text.quoted)
  | .attribute value attr use _ =>
    [("value", value.dump), ("attr", Text.quoted attr), dumpUse use]
  | .subscript value slice use _ =>
    [("value", value.dump), ("slice", slice.dump), dumpUse use]
  | .starred value use _ => [("value", value.dump), dumpUse use]
  | .name id use _ => [("id", Text.quoted id), dumpUse use]
  | .list elements use _ | .tuple elements use _ =>
    [("elts", dumpList (dumpAll elements)), dumpUse use]
  | .slice lower upper step _ =>
    optionField "lower" (dumpOption lower) ++ optionField "upper" (dumpOption upper)
      ++ optionField "step" (dumpOption step)

def dumpAll : List Expr → List String
  | [] => []
  | e :: es => e.dump :: dumpAll es

def dumpOption : Option Expr → Option String
  | none => none
  | some e => some e.dump

def dumpKeys : List (Option Expr × Expr) → List String
  | [] => []
  | (key, _) :: entries => (dumpOption key).getD "None" :: dumpKeys entries

def dumpValues : List (Option Expr × Expr) → List String
  | [] => []
  | (_, value) :: entries => value.dump :: dumpValues entries

def dumpLinks : List (CmpOp × Expr) → List String
  | [] => []
  | (_, e) :: links => e.dump :: dumpLinks links

def dumpOptions : List (Option Expr) → List String
  | [] => []
  | e :: es => (dumpOption e).getD "None" :: dumpOptions es

def dumpGenerators : List Generator → List String
  | [] => []
  | g :: gs => g.dump :: dumpGenerators gs

def Generator.dump : Generator → String
  | .mk target source conditions isAsync =>
    node "comprehension" [("target", target.dump), ("iter", source.dump),
      ("ifs", dumpList (dumpAll conditions)), ("is_async", toString isAsync)]

def dumpKeywords : List Keyword → List String
  | [] => []
  | k :: ks => k.dump :: dumpKeywords ks

def Keyword.dump : Keyword → String
  | .mk name value =>
    node "keyword" (optionField "arg" (name.map Text.quoted) ++ [("value", value.dump)])

def Arg.dump : Arg → String
  | .mk name hint _ =>
    node "arg" ([("arg", Text.quoted name)] ++ optionField "annotation" (dumpOption hint))

def dumpArgOption : Option Arg → Option String
  | none => none
  | some a => some a.dump

def dumpArgs : List Arg → List String
  | [] => []
  | a :: rest => a.dump :: dumpArgs rest

def Params.dump : Params → String
  | .mk positional ordinary rest named namedDefaults namedRest defaults =>
    node "arguments" ([("posonlyargs", dumpList (dumpArgs positional)),
      ("args", dumpList (dumpArgs ordinary))]
      ++ optionField "vararg" (dumpArgOption rest)
      ++ [("kwonlyargs", dumpList (dumpArgs named)),
        ("kw_defaults", dumpList (dumpOptions namedDefaults))]
      ++ optionField "kwarg" (dumpArgOption namedRest)
      ++ [("defaults", dumpList (dumpAll defaults))])

end

end Oxidize.Syntax
