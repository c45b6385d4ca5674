import Oxidize.Emit.Stmt
import Oxidize.Proofs.Emission.Steps

/-!
# Calls that have their arguments

A built-in function or a method of a text or a list may need arguments. Writing a program whose
calls have them never lacks one. Only a name, a literal, a field and a call can be written so:
whatever is put together in another way has a character in it that is no letter (`isLetters`).
-/

namespace Oxidize

open IR (Expr BinOp Stmt)
open Option

def builtinWords : List String :=
  ["len", "str", "int", "float"]

/-- The number of arguments that a method of texts and lists needs. -/
def neededArguments (method : String) : Nat :=
  if ["append", "extend", "startswith", "endswith"].contains method then 1
  else if method == "replace" then 2
  else 0

/-! ## Expressions and statements whose calls have their arguments -/

namespace IR

/-- Can the expression be written as the name of a built-in function that needs an argument? What
a field or a call is written as is up to its mapping. -/
def Expr.maybeBuiltin : Expr → Bool
  | .name n _ => builtinWords.contains n
  | .literal value _ => builtinWords.contains (Emit.literalText value)
  | .call .. | .method .. | .attr .. => true
  | _ => false

mutual

/-- Does every call in the expression have the arguments that it needs, whatever it is mapped to? -/
def Expr.isSupplied : Expr → Bool
  | .absent | .literal .. | .name .. | .other .. => true
  | .binary _ a b _ | .subscript a b _ | .slice a b _ _ => a.isSupplied && b.isSupplied
  | .unary _ e _ | .attr e _ _ | .formatted e _ _ | .await e _ => e.isSupplied
  | .call func args kwargs _ =>
    func.isSupplied && allSupplied args && namedSupplied kwargs &&
      (!func.maybeBuiltin || !args.isEmpty)
  | .method obj method args kwargs _ =>
    obj.isSupplied && allSupplied args && namedSupplied kwargs &&
      decide (neededArguments method ≤ args.length)
  | .list e _ | .set e _ | .tuple e _ | .fstring e _ => allSupplied e
  | .dict entries _ => entriesSupplied entries
  | .ifExp condition yes no _ => condition.isSupplied && yes.isSupplied && no.isSupplied
  | .listComp element _ source conditions _ =>
    source.isSupplied && element.isSupplied && allSupplied conditions

def allSupplied : List Expr → Bool
  | [] => true
  | e :: es => e.isSupplied && allSupplied es

def namedSupplied : Table Expr → Bool
  | [] => true
  | (_, value) :: rest => value.isSupplied && namedSupplied rest

def entriesSupplied : List (Expr × Expr) → Bool
  | [] => true
  | (key, value) :: rest => key.isSupplied && value.isSupplied && entriesSupplied rest

end

/-- What is written of a raised error: the first argument of a call, or the called name. -/
def Expr.raised : Expr → Expr
  | .call _ (arg :: _) _ _ => arg
  | .call func [] _ _ => func
  | error => error

mutual

/-- Does every call in the statement have the arguments that it needs? -/
def Stmt.isSupplied : Stmt → Bool
  | .assign _ value _ _ _ _ | .tupleUnpack _ value _ _ _ _ | .ret value _ | .expr value _ =>
    value.isSupplied
  | .attrAssign obj _ value _ _ => obj.isSupplied && value.isSupplied
  | .subscriptAssign obj index value _ =>
    obj.isSupplied && index.isSupplied && value.isSupplied
  | .ifStmt condition thenBody elifs elseBody _ =>
    condition.isSupplied && blockSupplied thenBody && elifsSupplied elifs && blockSupplied elseBody
  | .whileLoop e body _ | .forLoop _ e body _ | .withBlock e _ body _ =>
    e.isSupplied && blockSupplied body
  | .tryBlock body handlers elseBody finallyBody _ =>
    blockSupplied body && handlersSupplied handlers && blockSupplied elseBody &&
      blockSupplied finallyBody
  | .raise error _ => error.raised.isSupplied
  | .breakLoop _ | .continueLoop _ | .pass _ | .other .. => true

def blockSupplied : List Stmt → Bool
  | [] => true
  | s :: rest => s.isSupplied && blockSupplied rest

def elifsSupplied : List IR.Elif → Bool
  | [] => true
  | (condition, body) :: rest => condition.isSupplied && blockSupplied body && elifsSupplied rest

def handlersSupplied : List Handler → Bool
  | [] => true
  | (_, _, body) :: rest => blockSupplied body && handlersSupplied rest

end

lemma blockSupplied_append (body following : List Stmt) :
    blockSupplied (body ++ following) = (blockSupplied body && blockSupplied following) := by
  induction body with
  | nil => rfl
  | cons s body ih => rw [List.cons_append, blockSupplied, ih, blockSupplied, Bool.and_assoc]

end IR

/-- The condition holds, unless an argument may be missing. -/
def Terms.Supplies (T : Terms) (p : Bool) : Prop :=
  ¬ T.errors .missingArgument → p = true

namespace Terms.Supplies

variable {T : Terms} {p q : Bool}

lemma free : Terms.free.Supplies p :=
  Terms.free_elim

lemma imp (h : T.Supplies p) (hpq : p = true → q = true) : T.Supplies q :=
  fun hT => hpq (h hT)

lemma and : T.Supplies (p && q) ↔ T.Supplies p ∧ T.Supplies q := by
  unfold Terms.Supplies
  rw [Bool.and_eq_true, imp_and]

lemma parts (h : T.Supplies (p && q)) : T.Supplies p ∧ T.Supplies q :=
  and.1 h

end Terms.Supplies

/-! ## Expressions that are written as a word -/

def isLetters (s : String) : Bool :=
  s.toList.all Char.isAlpha

lemma notMem_builtinWords {s : String} (h : isLetters s = false) : s ∉ builtinWords := by
  intro hs
  have hall : ∀ word ∈ builtinWords, isLetters word = true := by decide
  rw [hall s hs] at h
  cases h

attribute [local simp] isLetters toString

namespace Emit

variable {op : BinOp} {code : String}

lemma isLetters_searchComparison {bound obj arg : String}
    (h : searchComparison op bound obj arg = some code) : isLetters code = false := by
  unfold searchComparison at h
  dsimp only at h
  split at h
  · split at h <;> cases h <;> simp
  · split at h
    · split at h <;> cases h <;> simp
    · cases h

variable {left right : String}

lemma isLetters_emptyComparison
    (h : emptyComparison op left right = some code) : isLetters code = false := by
  unfold emptyComparison at h
  simp only [orElse_eq_orElse, orElse_eq_or, or_eq_some_iff, bind_eq_some_iff, map_eq_some_iff] at h
  rcases h with ⟨_, _, empty, _, rfl⟩ | ⟨_, _, _, empty, _, rfl⟩
  · cases empty <;> simp [emptyQuestion]
  · cases empty <;> simp [emptyQuestion]

lemma isLetters_lengthComparison {leftExpr rightExpr : Expr} (h : lengthComparison op leftExpr rightExpr left right = some code) :
    isLetters code = false := by
  unfold lengthComparison at h
  split at h
  · dsimp only at h
    split at h <;> cases h <;> simp
  · cases h

lemma isLetters_wordOperation {leftExpr : Expr}
    (h : wordOperation op leftExpr left right = some code) : isLetters code = false := by
  unfold wordOperation at h
  split at h
  case h_4 | h_5 | h_6 | h_7 => split at h <;> cases h <;> simp
  all_goals cases h <;> simp

lemma isLetters_symbolOperation (c : Context) (op : BinOp) (leftExpr rightExpr : Expr)
    (left right : String) :
    isLetters (symbolOperation c op leftExpr rightExpr left right) = false := by
  unfold symbolOperation
  dsimp only
  simp

lemma isLetters_operation (c : Context) (op : BinOp) (leftExpr rightExpr : Expr)
    (left right : String) : isLetters (operation c op leftExpr rightExpr left right) = false := by
  unfold operation
  cases joinsPath c op leftExpr with
  | true => simp
  | false =>
    cases hfound : (emptyComparison op left right
        <|> lengthComparison op leftExpr rightExpr left right)
        <|> wordOperation op leftExpr left right with
    | none => exact isLetters_symbolOperation ..
    | some code =>
      simp only [orElse_eq_orElse, orElse_eq_or, or_eq_some_iff] at hfound
      rcases hfound with (hempty | ⟨-, hlength⟩) | ⟨-, hword⟩
      · exact isLetters_emptyComparison hempty
      · exact isLetters_lengthComparison hlength
      · exact isLetters_wordOperation hword

lemma isLetters_unarySymbol (op : IR.UnOp) (code : String) :
    isLetters (unarySymbol op ++ code) = false := by
  cases op <;> simp [unarySymbol]

lemma isLetters_awaited (code : String) : isLetters (awaited code) = false := by
  unfold awaited
  split
  · simp
  · split <;> simp

lemma isLetters_formatCall (parts : Table (Option String)) :
    isLetters (formatCall parts) = false := by
  unfold formatCall
  dsimp only
  split <;> simp

lemma isLetters_comprehension (source target element : String) (conditions : List String) :
    isLetters (comprehension source target element conditions) = false := by
  unfold comprehension
  simp

lemma isLetters_slice (obj : String) (lower upper : Expr) (lowerCode upperCode : String) :
    isLetters (slice obj lower upper lowerCode upperCode) = false := by
  unfold slice
  simp

lemma isLetters_unsupported (kind : String) : isLetters (unsupported kind) = false := by
  unfold unsupported
  simp

lemma isLetters_item (c : Context) (obj index : Expr) (objCode indexCode : String) :
    isLetters (item c obj index objCode indexCode) = false := by
  unfold item
  dsimp only
  split
  · simp
  · split
    · simp
    · split <;> simp

end Emit

/-! ## Parts of statements -/

namespace Emit

lemma allSupplied_pushedValues {target : String} {body : List Stmt}
    (h : IR.blockSupplied body = true) : IR.allSupplied (pushedValues target body) = true := by
  induction body with
  | nil => rfl
  | cons s rest ih =>
    rw [IR.blockSupplied, Bool.and_eq_true] at h
    rw [pushedValues]
    split
    · rename_i value hpushed
      rw [IR.allSupplied, ih h.2, Bool.and_true]
      have hs := h.1
      unfold pushed? at hpushed
      split at hpushed
      · split at hpushed <;> cases hpushed
        simp only [IR.Stmt.isSupplied, IR.Expr.isSupplied, IR.allSupplied, Bool.and_eq_true] at hs
        exact hs.1.1.2.1
      · cases hpushed
    · rfl

lemma updateParts_isSupplied {value : Expr} (h : value.isSupplied = true) (target : String) :
    (updateParts target value).2.isSupplied = true := by
  unfold updateParts
  split
  · split
    · rw [IR.Expr.isSupplied, Bool.and_eq_true] at h
      exact h.2
    · exact h
  · exact h

lemma fieldUpdate?_isSupplied {value : Expr} (h : value.isSupplied = true) {member sign : String}
    {right : Expr} (hupdate : fieldUpdate? member value = some (sign, right)) :
    right.isSupplied = true := by
  unfold fieldUpdate? at hupdate
  split at hupdate
  · rw [IR.Expr.isSupplied, Bool.and_eq_true] at h
    obtain ⟨_, -, hpair⟩ := map_eq_some_iff.1 hupdate
    cases hpair
    exact h.2
  · cases hupdate

end Emit

end Oxidize
