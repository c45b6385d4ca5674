import Oxidize.IR.Basic

/-!
# What happens to variables

Whether an expression or a statement changes or reassigns a given variable: by a method that
changes its receiver, by shuffling it, or by an assignment that is no declaration. Which names are
read, which variables are assigned, and which of the collection types have to be imported, as far as
annotations and literals show.

A block always exits when its last statement returns or raises, or is a choice with a final branch
all of whose branches always exit.
-/

namespace Oxidize.IR

/-! ## Where control goes -/

def Expr.comparedVar? : Expr → Expr → Option String
  | .name n _, .literal .none _ => some n
  | _, _ => none

/-- The variables of checks that a variable is nothing, or is something, in order; `none` when some
part of the condition is anything else. -/
def Expr.checkedVars? (join check : BinOp) : Expr → Option (List String)
  | .binary op left right _ =>
    if op = join then return (← left.checkedVars? join check) ++ (← right.checkedVars? join check)
    else if op = check then (left.comparedVar? right).map ([·])
    else none
  | _ => none

def Expr.somethingVars? : Expr → Option (List String) :=
  checkedVars? .and .isNot

def Expr.nothingVars? : Expr → Option (List String) :=
  checkedVars? .or .is

def Expr.somethingVars (e : Expr) : List String :=
  e.somethingVars?.getD []

def Expr.nothingVars (e : Expr) : List String :=
  e.nothingVars?.getD []

mutual

def Stmt.alwaysExits : Stmt → Bool
  | .ret _ _ | .raise _ _ => true
  | .ifStmt _ thenBody elifs elseBody _ =>
    blockAlwaysExits thenBody && blockAlwaysExits elseBody && elifsAlwaysExit elifs
  | _ => false

def blockAlwaysExits : List Stmt → Bool
  | [] => false
  | [s] => s.alwaysExits
  | _ :: s :: ss => blockAlwaysExits (s :: ss)

def elifsAlwaysExit : List Elif → Bool
  | [] => true
  | (_, body) :: rest => blockAlwaysExits body && elifsAlwaysExit rest

end

/-! ## Variables that are changed in place -/

def changingMethods : List String :=
  ["append", "push", "extend", "insert", "pop", "remove", "clear", "sort", "reverse", "update",
   "add", "discard", "recv", "recv_many", "try_recv", "read", "write", "write_all", "flush"]

def isChangingMethod (method : String) : Bool :=
  changingMethods.contains method ||
    ["set_", "remove_", "add_"].any fun start => Text.startsWith method start

def isShuffle (obj : Expr) (method : String) (args : List Expr) : Bool :=
  obj.isName "random" && method == "shuffle" && args.length == 1

def headIsName (args : List Expr) (n : String) : Bool :=
  match args with
  | e :: _ => e.isName n
  | [] => false

mutual

def Expr.mutates (x : String) : Expr → Bool
  | .absent | .literal _ _ | .name _ _ | .other _ _ => false
  | .method obj method args kwargs _ =>
    (obj.isName x && isChangingMethod method) ||
      (isShuffle obj method args && headIsName args x) ||
      obj.mutates x || mutatesList x args || mutatesKwargs x kwargs
  | .call func args kwargs _ => mutatesList x args || mutatesKwargs x kwargs || func.mutates x
  | .binary _ a b _ | .subscript a b _ => a.mutates x || b.mutates x
  | .unary _ e _ | .attr e _ _ | .formatted e _ _ | .await e _ => e.mutates x
  | .slice a b c _ | .ifExp a b c _ => a.mutates x || b.mutates x || c.mutates x
  | .list e _ | .set e _ | .tuple e _ | .fstring e _ => mutatesList x e
  | .dict entries _ => mutatesEntries x entries
  | .listComp element _ source conditions _ =>
    source.mutates x || element.mutates x || mutatesList x conditions

def mutatesList (x : String) : List Expr → Bool
  | [] => false
  | e :: es => e.mutates x || mutatesList x es

def mutatesKwargs (x : String) : Table Expr → Bool
  | [] => false
  | (_, e) :: rest => e.mutates x || mutatesKwargs x rest

def mutatesEntries (x : String) : List (Expr × Expr) → Bool
  | [] => false
  | (k, v) :: rest => k.mutates x || v.mutates x || mutatesEntries x rest

end

mutual

/-- Does the statement change or reassign the variable `x`? -/
def Stmt.mutates (x : String) : Stmt → Bool
  | .assign target value _ declares _ _ => (target == x && !declares) || value.mutates x
  | .tupleUnpack targets value _ _ _ _ => targets.contains x || value.mutates x
  | .attrAssign obj _ value _ _ => obj.isName x || obj.mutates x || value.mutates x
  | .subscriptAssign _ _ _ _ | .breakLoop _ | .continueLoop _ | .pass _ | .other _ _ => false
  | .expr e _ | .ret e _ | .raise e _ => e.mutates x
  | .ifStmt condition thenBody elifs elseBody _ =>
    condition.mutates x || blockMutates x thenBody || elifMutates x elifs ||
      blockMutates x elseBody
  | .forLoop _ e body _ | .whileLoop e body _ | .withBlock e _ body _ =>
    e.mutates x || blockMutates x body
  | .tryBlock body handlers elseBody finallyBody _ =>
    blockMutates x body || blockMutates x elseBody || handlerMutates x handlers ||
      blockMutates x finallyBody

def blockMutates (x : String) : List Stmt → Bool
  | [] => false
  | s :: ss => s.mutates x || blockMutates x ss

def elifMutates (x : String) : List Elif → Bool
  | [] => false
  | (_, body) :: rest => blockMutates x body || elifMutates x rest

def handlerMutates (x : String) : List Handler → Bool
  | [] => false
  | (_, _, body) :: rest => blockMutates x body || handlerMutates x rest

end

/-! ## Variables that are read and assigned -/

mutual

/-- The names that an expression reads. The name of a called function does not count. -/
def Expr.reads : Expr → List String
  | .absent | .literal _ _ | .other _ _ => []
  | .name n _ => [n]
  | .binary _ a b _ | .subscript a b _ => a.reads ++ b.reads
  | .unary _ e _ | .attr e _ _ | .formatted e _ _ | .await e _ => e.reads
  | .call func args kwargs _ =>
    readsList args ++ readsKwargs kwargs ++
      (match func with
       | .name _ _ => []
       | f => f.reads)
  | .method obj _ args kwargs _ => obj.reads ++ readsList args ++ readsKwargs kwargs
  | .slice a b c _ | .ifExp a b c _ => a.reads ++ b.reads ++ c.reads
  | .list e _ | .set e _ | .tuple e _ | .fstring e _ => readsList e
  | .dict entries _ => readsEntries entries
  | .listComp element _ source conditions _ =>
    source.reads ++ element.reads ++ readsList conditions

def readsList : List Expr → List String
  | [] => []
  | e :: es => e.reads ++ readsList es

def readsKwargs : Table Expr → List String
  | [] => []
  | (_, e) :: rest => e.reads ++ readsKwargs rest

def readsEntries : List (Expr × Expr) → List String
  | [] => []
  | (k, v) :: rest => k.reads ++ v.reads ++ readsEntries rest

end

mutual

/-- The names that a statement reads. An assignment to a subscript reads nothing. -/
def Stmt.reads : Stmt → List String
  | .assign _ e _ _ _ _ | .tupleUnpack _ e _ _ _ _ | .expr e _ | .ret e _ | .raise e _ => e.reads
  | .attrAssign obj _ value _ _ => obj.reads ++ value.reads
  | .subscriptAssign _ _ _ _ | .breakLoop _ | .continueLoop _ | .pass _ | .other _ _ => []
  | .ifStmt condition thenBody elifs elseBody _ =>
    condition.reads ++ blockReads thenBody ++ elifReads elifs ++ blockReads elseBody
  | .forLoop _ e body _ | .whileLoop e body _ | .withBlock e _ body _ => e.reads ++ blockReads body
  | .tryBlock body handlers elseBody finallyBody _ =>
    blockReads body ++ blockReads elseBody ++ handlerReads handlers ++ blockReads finallyBody

def blockReads : List Stmt → List String
  | [] => []
  | s :: ss => s.reads ++ blockReads ss

def elifReads : List Elif → List String
  | [] => []
  | (condition, body) :: rest => condition.reads ++ blockReads body ++ elifReads rest

def handlerReads : List Handler → List String
  | [] => []
  | (_, _, body) :: rest => blockReads body ++ handlerReads rest

end

mutual

def Stmt.assigned : Stmt → List String
  | .assign target _ _ _ _ _ => [target]
  | .tupleUnpack targets _ _ _ _ _ => targets
  | .attrAssign _ _ _ _ _ | .subscriptAssign _ _ _ _ | .expr _ _ | .ret _ _ | .raise _ _
  | .breakLoop _ | .continueLoop _ | .pass _ | .other _ _ => []
  | .ifStmt _ thenBody elifs elseBody _ =>
    blockAssigned thenBody ++ elifAssigned elifs ++ blockAssigned elseBody
  | .forLoop target _ body _ => target :: blockAssigned body
  | .whileLoop _ body _ => blockAssigned body
  | .withBlock _ target body _ =>
    (target.filter (· != "")).toList ++ blockAssigned body
  | .tryBlock body handlers elseBody finallyBody _ =>
    blockAssigned body ++ blockAssigned elseBody ++ handlerAssigned handlers ++
      blockAssigned finallyBody

def blockAssigned : List Stmt → List String
  | [] => []
  | s :: ss => s.assigned ++ blockAssigned ss

def elifAssigned : List Elif → List String
  | [] => []
  | (_, body) :: rest => blockAssigned body ++ elifAssigned rest

def handlerAssigned : List Handler → List String
  | [] => []
  | (_, _, body) :: rest => blockAssigned body ++ handlerAssigned rest

end

def countNames (names : List String) : Table Nat :=
  names.foldl (fun counts n => counts.set n ((counts.get? n).getD 0 + 1)) []

theorem get?_countNames (names : List String) (x : String) :
    ((countNames names).get? x).getD 0 = names.count x := by
  suffices hfold : ∀ counts : Table Nat, ((names.foldl
      (fun counts n => counts.set n ((counts.get? n).getD 0 + 1)) counts).get? x).getD 0 =
        (counts.get? x).getD 0 + names.count x by
    exact (hfold []).trans (Nat.zero_add _)
  induction names with
  | nil => simp
  | cons n names ih =>
    intro counts
    rw [List.foldl_cons, ih]
    by_cases hn : x = n
    · subst hn
      rw [Table.get?_set_self, List.count_cons_self, Option.getD_some]
      omega
    · rw [Table.get?_set_of_ne _ _ hn, List.count_cons_of_ne (Ne.symm hn)]

def assignmentCounts (body : List Stmt) : Table Nat :=
  countNames (blockAssigned body)

def readVars (body : List Stmt) : NameSet :=
  NameSet.ofList (blockReads body)

def blockReadsVar (body : List Stmt) (target : String) : Bool :=
  (blockReads body).contains target

def collectionOf (name : String) : List String :=
  match Text.lowerAscii name with
  | "dict" => ["HashMap"]
  | "set" => ["HashSet"]
  | _ => []

mutual

/-- The collections in a type, as far as they are types with arguments or arguments of those. -/
def Ty.collections : Ty → List String
  | .generic name args => collectionOf name ++ collectionsAll args
  | _ => []

def collectionsAll : List Ty → List String
  | [] => []
  | t :: ts => t.collections ++ collectionsAll ts

end

mutual

/-- The collections that an expression builds, as far as literals, calls and operations show. -/
def Expr.collections : Expr → List String
  | .dict _ _ => ["HashMap"]
  | .set _ _ => ["HashSet"]
  | .call _ args _ _ => exprCollections args
  | .binary _ left right _ => left.collections ++ right.collections
  | _ => []

def exprCollections : List Expr → List String
  | [] => []
  | e :: es => e.collections ++ exprCollections es

end

mutual

/-- The collections that a statement uses. Of the compound statements, loops over a collection and
the first and last branch of a choice are searched. -/
def Stmt.collections : Stmt → List String
  | .assign _ value annot _ _ _ =>
    (match annot with
     | some t => t.collections
     | none => []) ++ value.collections
  | .expr value _ | .ret value _ => value.collections
  | .forLoop _ source body _ => source.collections ++ blockCollections body
  | .ifStmt _ thenBody _ elseBody _ => blockCollections thenBody ++ blockCollections elseBody
  | _ => []

def blockCollections : List Stmt → List String
  | [] => []
  | s :: ss => s.collections ++ blockCollections ss

end

def optionCollections (t : Option Ty) : List String :=
  (t.map Ty.collections).getD []

def Function.collections (f : Function) : List String :=
  (f.params.flatMap fun p => p.type.collections) ++ optionCollections f.result ++
    blockCollections f.body

def Module.collections (m : Module) : NameSet :=
  NameSet.ofList <|
    m.functions.flatMap Function.collections ++
      m.classes.flatMap fun c =>
        (c.fields.flatMap fun field => field.2.collections) ++
          c.methods.flatMap Function.collections

end Oxidize.IR
