import Oxidize.Syntax.Basic

/-!
# All parts of a syntax tree

The expressions that occur in an expression, and the statements and expressions that occur in a
statement, at any depth.
-/

namespace Oxidize.Syntax

mutual

def Expr.parts : Expr → List Expr
  | e@(.boolOp _ a _) | e@(.set a _) | e@(.joinedStr a _) | e@(.list a _ _) | e@(.tuple a _ _) =>
    e :: partsAll a
  | e@(.namedExpr a b _) | e@(.binOp a _ b _) | e@(.lambda a b _) | e@(.subscript a b _ _) =>
    e :: (a.parts ++ b.parts)
  | e@(.unaryOp _ a _) | e@(.await a _) | e@(.yieldFrom a _) | e@(.attribute a _ _ _)
  | e@(.starred a _ _) => e :: a.parts
  | e@(.ifExp test body orelse _) => e :: (test.parts ++ body.parts ++ orelse.parts)
  | e@(.dict entries _) => e :: partsEntries entries
  | e@(.listComp element generators _) | e@(.setComp element generators _)
  | e@(.generatorExp element generators _) => e :: (element.parts ++ partsGenerators generators)
  | e@(.dictComp key value generators _) =>
    e :: (key.parts ++ value.parts ++ partsGenerators generators)
  | e@(.yield value _) => e :: partsOption value
  | e@(.compare left links _) => e :: (left.parts ++ partsLinks links)
  | e@(.call func args keywords _) => e :: (func.parts ++ partsAll args ++ partsKeywords keywords)
  | e@(.formattedValue value _ spec _) => e :: (value.parts ++ partsOption spec)
  | e@(.constant _ _ _) | e@(.name _ _ _) => [e]
  | e@(.slice lower upper step _) =>
    e :: (partsOption lower ++ partsOption upper ++ partsOption step)

def partsAll : List Expr → List Expr
  | [] => []
  | e :: es => e.parts ++ partsAll es

def partsOption : Option Expr → List Expr
  | none => []
  | some e => e.parts

def partsOptions : List (Option Expr) → List Expr
  | [] => []
  | e :: es => partsOption e ++ partsOptions es

def partsEntries : List (Option Expr × Expr) → List Expr
  | [] => []
  | (key, value) :: entries => partsOption key ++ value.parts ++ partsEntries entries

def partsLinks : List (CmpOp × Expr) → List Expr
  | [] => []
  | (_, e) :: links => e.parts ++ partsLinks links

def partsGenerators : List Generator → List Expr
  | [] => []
  | .mk target source conditions _ :: rest =>
    target.parts ++ source.parts ++ partsAll conditions ++ partsGenerators rest

def partsKeywords : List Keyword → List Expr
  | [] => []
  | .mk _ value :: rest => value.parts ++ partsKeywords rest

def partsArgs : List Arg → List Expr
  | [] => []
  | .mk _ hint _ :: rest => partsOption hint ++ partsArgs rest

def partsArgOption : Option Arg → List Expr
  | none => []
  | some (.mk _ hint _) => partsOption hint

def Params.parts : Params → List Expr
  | .mk positional ordinary rest named namedDefaults namedRest defaults =>
    partsArgs positional ++ partsArgs ordinary ++ partsArgOption rest ++ partsArgs named
      ++ partsOptions namedDefaults ++ partsArgOption namedRest ++ partsAll defaults

end

/-- All expressions in a statement, without those in the statements inside of it. -/
def Stmt.exprs : Stmt → List Expr
  | .functionDef _ _ params _ decorators returns _ =>
    params.parts ++ partsAll decorators ++ partsOption returns
  | .classDef _ bases keywords _ decorators _ =>
    partsAll bases ++ partsKeywords keywords ++ partsAll decorators
  | .ret value _ => partsOption value
  | .assign targets value _ => partsAll targets ++ value.parts
  | .annAssign target hint value _ => target.parts ++ hint.parts ++ partsOption value
  | .augAssign target _ e _ | .forLoop target e _ _ _ => target.parts ++ e.parts
  | .whileLoop e _ _ _ | .ifStmt e _ _ _ | .expr e _ => e.parts
  | .withStmt items _ _ => items.flatMap fun (e, target) => e.parts ++ partsOption target
  | .raise error cause _ => partsOption error ++ partsOption cause
  | .tryStmt _ handlers _ _ _ => handlers.flatMap fun (type, _, _) => partsOption type
  | .importNames _ _ | .importFrom _ _ _ | .pass _ | .breakLoop _ | .continueLoop _ => []
  | .other _ exprs _ _ => partsAll exprs

mutual

def Stmt.parts : Stmt → List Stmt
  | s@(.functionDef _ _ _ body _ _ _) | s@(.classDef _ _ _ body _ _) | s@(.withStmt _ body _) =>
    s :: stmtParts body
  | s@(.forLoop _ _ body orelse _) | s@(.whileLoop _ body orelse _) | s@(.ifStmt _ body orelse _) =>
    s :: (stmtParts body ++ stmtParts orelse)
  | s@(.tryStmt body handlers orelse finalBody _) =>
    s :: (stmtParts body ++ handlerParts handlers ++ stmtParts orelse ++ stmtParts finalBody)
  | s@(.other _ _ blocks _) => s :: blockParts blocks
  | s => [s]

def stmtParts : List Stmt → List Stmt
  | [] => []
  | s :: rest => s.parts ++ stmtParts rest

def handlerParts : List Handler → List Stmt
  | [] => []
  | (_, _, body) :: rest => stmtParts body ++ handlerParts rest

def blockParts : List (List Stmt) → List Stmt
  | [] => []
  | body :: rest => stmtParts body ++ blockParts rest

end

def changingMethods : List String :=
  ["append", "extend", "insert", "remove", "pop", "clear", "sort", "reverse", "add", "discard",
   "update", "setdefault", "popitem"]

def Expr.isSelfPlace : Expr → Bool
  | .subscript value _ _ _ => value.isSelfField
  | e => e.isSelfField

def Stmt.assignsSelf : Stmt → Bool
  | .assign targets _ _ => targets.any Expr.isSelfPlace
  | .augAssign target _ _ _ => target.isSelfPlace
  | _ => false

def Expr.changesSelf : Expr → Bool
  | .call (.attribute obj method _ _) _ _ _ => changingMethods.contains method && obj.isSelfField
  | _ => false

def Stmt.modifiesSelf (s : Stmt) : Bool :=
  s.parts.any fun part => part.assignsSelf || part.exprs.any Expr.changesSelf

end Oxidize.Syntax
