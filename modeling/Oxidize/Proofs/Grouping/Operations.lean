import Oxidize.Proofs.Emission.Steps
import Oxidize.Proofs.Grouping.Spelling
import Oxidize.Proofs.Reading.Filling
import Oxidize.Stub.Name

/-!
# Operations keep their operands together

An operation that is written with a symbol has parentheses around every operand that is itself an
operation. So what is written for a tree of such operations on names and numbers is read back as the
same tree (`parse_operations`). The rules for lengths and for texts look at the written operands;
they never apply here, since without a point there is no method call.
-/

namespace Oxidize.Emit

open IR (Expr BinOp)
open Target (Reads)
open List Text

variable {packages : Table Package}

/-! ## Actions with a known outcome -/

/-- In the context `c` and with these packages installed, the action gives `a`, and leaves both as
they are. -/
def Gives {α : Type} (c : Context) (packages : Table Package) (x : Emit α) (a : α) : Prop :=
  ∀ em : Emitter, em.ctx = c → em.resolver.registry.packages = packages →
    ∃ em', em.run x = (.ok a, em') ∧ em'.ctx = c ∧ em'.resolver.registry.packages = packages

namespace Gives

variable {α β : Type} {c : Context} {packages : Table Package}

lemma pure (a : α) : Gives c packages (pure a) a :=
  fun em hctx hpackages => ⟨em, rfl, hctx, hpackages⟩

lemma bind {x : Emit α} {f : α → Emit β} {a : α} {b : β} (hx : Gives c packages x a)
    (hf : Gives c packages (f a) b) : Gives c packages (x >>= f) b := by
  intro em hctx hpackages
  obtain ⟨em₁, hrun, hctx, hpackages⟩ := hx em hctx hpackages
  obtain ⟨em₂, hrun', hctx, hpackages⟩ := hf em₁ hctx hpackages
  exact ⟨em₂, by rw [Emitter.run_bind_ok hrun, hrun'], hctx, hpackages⟩

lemma context : Gives c packages Emit.context c :=
  fun em hctx hpackages => ⟨em, by rw [Emitter.run_context, hctx], hctx, hpackages⟩

lemma read {f : Context → Emit β} {b : β} (hf : Gives c packages (f c) b) :
    Gives c packages (Emit.context >>= f) b :=
  context.bind hf

end Gives

/-! ## Names and numbers -/

/-- The name stands for a value of the program: it is no reserved word, and it was not imported from
the native library. -/
structure IsLocal (c : Context) (n : String) : Prop where
  usable : Stub.isUsableName n = true
  notNative : c.nativeImports.get? n = none

variable {c : Context} {n left right : String} {op : BinOp}

lemma nativeMapping?_gives (h : c.nativeImports.get? n = none)
    (member : Option String) : Gives c packages (nativeMapping? n member) none := by
  refine Gives.read ?_
  rw [h]
  exact Gives.pure none

lemma nameValue_gives (h : c.nativeImports.get? n = none)
    (hnarrow : c.narrowed.contains n = false) : Gives c packages (nameValue n) n := by
  refine Gives.read ?_
  rw [hnarrow]
  exact (nativeMapping?_gives h none).bind (Gives.pure n)

variable {code : String} {leftExpr e : Expr}

/-- A name that can be used consists of characters of words, and it begins with no digit. -/
lemma exists_of_isUsableName (h : Stub.isUsableName n = true) :
    n ≠ "as" ∧ (∀ c ∈ n.toList, isNameChar c = true) ∧
      ∃ c cs, n.toList = c :: cs ∧ Unicode.isDigit c = false := by
  simp only [Stub.isUsableName, Bool.and_eq_true, Bool.not_eq_true', isIdentifier] at h
  obtain ⟨hword, hident⟩ := h
  refine ⟨?_, ?_⟩
  · rintro rfl
    cases hword
  · cases hlist : n.toList with
    | nil => simp [hlist] at hident
    | cons c cs =>
      simp only [hlist, Bool.and_eq_true, all_eq_true] at hident
      refine ⟨?_, c, cs, rfl, ?_⟩
      · intro d hd
        rcases mem_cons.1 hd with rfl | hd
        · simp [isNameChar, Unicode.isIdentifierPart, hident.1]
        · exact hident.2 d hd
      · cases hdigit : Unicode.isDigit c with
        | false => rfl
        | true =>
          rw [Unicode.isIdentifierStart_of_isDigit hdigit] at hident
          cases hident.1

lemma reads_name (h : Stub.isUsableName n = true) : Reads Target.top false n (.name n) := by
  obtain ⟨has, hchars, c, cs, hlist, hdigit⟩ := exists_of_isUsableName h
  have hascii := Unicode.not_isDigit_ascii hdigit
  refine Reads.word ?_ hchars ?_
  · rintro rfl
    cases hlist
  · simp [Target.atom?, hlist, hascii, has]

lemma toString_ne_empty (n : Nat) : toString n ≠ "" := by
  intro hempty
  have hlist := Template.toList_toString n
  rw [hempty] at hlist
  exact Nat.toDigits_ne_nil hlist.symm

lemma isDigit_of_mem_toString {n : Nat} {c : Char} (hc : c ∈ (toString n).toList) :
    c.isDigit = true := by
  rw [Template.toList_toString] at hc
  exact Nat.isDigit_of_mem_toDigits (by omega) (by omega) hc

lemma isNameChar_of_mem_toString {n : Nat} {c : Char} (hc : c ∈ (toString n).toList) :
    isNameChar c = true :=
  Template.isNameChar_of_isDigit (isDigit_of_mem_toString hc)

lemma reads_number (n : Nat) : Reads Target.top false (toString n) (.number (toString n)) := by
  have hdigits : ∀ c ∈ (toString n).toList, c.isDigit = true :=
    fun c hc => isDigit_of_mem_toString hc
  refine Reads.word (toString_ne_empty n) (fun c hc => isNameChar_of_mem_toString hc) ?_
  rw [Target.atom?, if_pos (all_eq_true.2 hdigits)]

/-! ## Rules that look at the written operands -/

lemma lengthReceiver?_eq_some {receiver : String} (h : lengthReceiver? code = some receiver) :
    code = receiver ++ ".len()" ∨
      ∃ type ∈ intTypes, code = receiver ++ ".len()" ++ (" as " ++ type) := by
  unfold lengthReceiver? at h
  cases hcore : intTypes.findSome? fun t => Text.dropSuffix? code s!" as {t}" with
  | none =>
    rw [hcore] at h
    exact .inl (dropSuffix?_eq_some h)
  | some core =>
    rw [hcore] at h
    obtain ⟨type, htype, hdrop⟩ := exists_of_findSome?_eq_some hcore
    have hlen : core = receiver ++ ".len()" := dropSuffix?_eq_some h
    exact .inr ⟨type, htype, hlen ▸ dropSuffix?_eq_some hdrop⟩

def Pointless (code : String) : Prop :=
  '.' ∉ code.toList

instance (code : String) : Decidable (Pointless code) :=
  inferInstanceAs (Decidable ('.' ∉ code.toList))

lemma Pointless.append {a b : String} (ha : Pointless a) (hb : Pointless b) :
    Pointless (a ++ b) := by
  unfold Pointless
  rw [String.toList_append, mem_append]
  rintro (h | h)
  · exact ha h
  · exact hb h

lemma Pointless.lengthReceiver? (h : Pointless code) : lengthReceiver? code = none := by
  cases hlength : Emit.lengthReceiver? code with
  | none => rfl
  | some receiver =>
    refine absurd ?_ h
    rcases lengthReceiver?_eq_some hlength with rfl | ⟨type, -, rfl⟩ <;> simp

lemma Pointless.isOwnedText (h : Pointless code) : isOwnedText code = false := by
  cases howned : Emit.isOwnedText code with
  | false => rfl
  | true =>
    obtain ⟨start, hstart⟩ := isSuffixOf_iff_suffix.1 howned
    refine absurd ?_ h
    rw [← hstart]
    exact mem_append_right _ (by decide)

lemma emptyComparison_of_none (hl : lengthReceiver? left = none)
    (hr : lengthReceiver? right = none) : emptyComparison op left right = none := by
  simp [emptyComparison, hl, hr]

lemma lengthComparison_of_none {rightExpr : Expr} (hl : lengthReceiver? left = none)
    (hr : lengthReceiver? right = none) :
    lengthComparison op leftExpr rightExpr left right = none := by
  unfold lengthComparison
  rw [hl, hr]
  cases leftExpr.name? <;> cases rightExpr.name? <;> simp

lemma wordOperation_of_symbol (hop : (symbol? op).isSome = true) (hl : isOwnedText left = false)
    (hr : isOwnedText right = false) : wordOperation op leftExpr left right = none := by
  cases op with
  | add => simp only [wordOperation, hl, hr, Bool.or_false, Bool.false_eq_true, if_false]
  | floorDiv | pow | mem | notMem | is | isNot => cases hop
  | _ => rfl

lemma symbolOperation_eq {rightExpr : Expr} {s : String} (hs : symbol? op = some s)
    (hequated : equated c leftExpr rightExpr left right = (left, right)) :
    symbolOperation c op leftExpr rightExpr left right =
      enclosed leftExpr left ++ " " ++ s ++ " " ++ enclosed rightExpr right := by
  cases op <;> cases hs <;> simp only [symbolOperation, hequated] <;> rfl

/-- The operands of an operation are written first, unless the left one is a search. -/
lemma binary_gives {l r : Expr} {line : IR.Line}
    (hsearch : searched l = none) (hl : Gives c packages (expr l) left)
    (hr : Gives c packages (expr r) right) :
    Gives c packages (expr (.binary op l r line)) (operation c op l r left right) := by
  rw [expr, hsearch]
  exact (Gives.pure none).bind (hl.bind (hr.bind (Gives.read (Gives.pure _))))

lemma signs_of_symbol {s : String} (h : symbol? op = some s) : Target.signs.get? s = some op := by
  cases op <;> cases h <;> decide

/-! ## Trees of operations -/

/-- The tree of operations that an expression is, if it consists of names, numbers and operations
with a symbol. -/
def tree? : Expr → Option Target.Expr
  | .name n _ => some (.name n)
  | .literal (.int (.ofNat n)) _ => some (.number (toString n))
  | .binary op left right _ =>
    if (symbol? op).isSome then do some (.binary op (← tree? left) (← tree? right)) else none
  | _ => none

/-- The expression is built of names, numbers and operations with a symbol. The names are written as
they are: none is optional, taken out of its option, a path or imported from the native library. -/
inductive Operational (c : Context) : Expr → Prop
  | name {n : String} {line : IR.Line} (hlocal : IsLocal c n)
    (hnarrow : c.narrowed.contains n = false) (hoption : c.optionVars.contains n = false)
    (hpath : c.isPathVar n = false) : Operational c (.name n line)
  | number (n : Nat) (line : IR.Line) : Operational c (.literal (.int n) line)
  | binary {op : BinOp} {left right : Expr} {line : IR.Line} (hop : (symbol? op).isSome = true)
    (hl : Operational c left) (hr : Operational c right) : Operational c (.binary op left right line)

lemma Operational.not_joinsPath (h : Operational c e) (op : BinOp) : joinsPath c op e = false := by
  cases h with
  | name _ _ _ hpath => simp [joinsPath, Expr.name?, hpath]
  | number | binary => simp [joinsPath, Expr.name?]

lemma Operational.equated {c : Context} {l r : Expr} (hl : Operational c l) (hr : Operational c r)
    (left right : String) : equated c l r left right = (left, right) := by
  cases hl <;> cases hr <;> simp_all [Emit.equated, Expr.name?]

lemma Operational.searched {c : Context} (h : Operational c e) : searched e = none := by
  cases h <;> rfl

lemma Pointless.enclosed (h : Pointless code) (e : Expr) : Pointless (enclosed e code) := by
  unfold Emit.enclosed
  cases e.isBinary with
  | true => exact (Pointless.append (by decide) h).append (by decide)
  | false => exact h

/-- What is written for an expression is read back as its tree, on its own and as an operand. There
is no point in it. -/
lemma Operational.reads (packages : Table Package) (h : Operational c e) :
    ∃ code t, Gives c packages (expr e) code ∧ tree? e = some t ∧ Pointless code ∧
      (∃ lv typed, Reads lv typed code t) ∧ Reads Target.top false (enclosed e code) t := by
  induction h with
  | @name n line hlocal hnarrow _ _ =>
    have hread := reads_name hlocal.usable
    refine ⟨n, .name n, nameValue_gives hlocal.notNative hnarrow, rfl, ?_, ⟨_, _, hread⟩, hread⟩
    intro hpoint
    have hname := (exists_of_isUsableName hlocal.usable).2.1 '.' hpoint
    rw [Target.not_isNameChar_mark '.' (by simp)] at hname
    cases hname
  | number n line =>
    have hread := reads_number n
    refine ⟨toString n, .number (toString n), Gives.pure _, rfl, ?_, ⟨_, _, hread⟩, hread⟩
    exact fun hpoint => nomatch isDigit_of_mem_toString hpoint
  | @binary op l r line hop hl hr ihl ihr =>
    obtain ⟨left, tl, hgivel, htreel, hpointl, -, hreadl⟩ := ihl
    obtain ⟨right, tr, hgiver, htreer, hpointr, -, hreadr⟩ := ihr
    obtain ⟨s, hs⟩ := Option.isSome_iff_exists.1 hop
    have hcode : operation c op l r left right =
        enclosed l left ++ " " ++ s ++ " " ++ enclosed r right := by
      rw [operation, hl.not_joinsPath op,
        emptyComparison_of_none hpointl.lengthReceiver? hpointr.lengthReceiver?,
        lengthComparison_of_none hpointl.lengthReceiver? hpointr.lengthReceiver?,
        wordOperation_of_symbol hop hpointl.isOwnedText hpointr.isOwnedText]
      exact symbolOperation_eq hs (hl.equated hr left right)
    have hpoint : Pointless (operation c op l r left right) := by
      rw [hcode]
      have hsign : Pointless (" " ++ s ++ " ") := by cases op <;> cases hs <;> decide
      simpa only [String.append_assoc] using
        (hpointl.enclosed l).append (hsign.append (hpointr.enclosed r))
    have hread : Reads (Target.level op) true (operation c op l r left right) (.binary op tl tr) := by
      have htop : Target.castLevel < Target.top := by decide
      have hlevel := Target.level_lt_castLevel op
      have hleft := Target.leftLevel_le_castLevel op
      rw [hcode]
      exact Reads.binary hreadl hreadr (signs_of_symbol hs) (by omega) (by omega)
        (fun htyped => absurd htyped Bool.false_ne_true)
    refine ⟨_, .binary op tl tr, binary_gives hl.searched hgivel hgiver, ?_, hpoint, ⟨_, _, hread⟩,
      Reads.paren hread.encloses⟩
    simp [tree?, hop, htreel, htreer]

/-- What is written for a tree of operations on names and numbers is read back as the same tree. -/
theorem parse_operations {em : Emitter} {e : Expr} (h : Operational em.ctx e) :
    ∃ code em' t, em.run (expr e) = (.ok code, em') ∧ tree? e = some t ∧
      Target.parse code = some t := by
  obtain ⟨code, t, hgive, htree, -, ⟨lv, typed, hread⟩, -⟩ :=
    h.reads em.resolver.registry.packages
  obtain ⟨em', hrun, -, -⟩ := hgive em rfl rfl
  exact ⟨code, em', t, hrun, htree, hread.parse⟩

/-- The comparison `(a - (b - 1)) < (a << 2)` of two differences and a shift. -/
def nestedComparison : Expr :=
  .binary .lt (.binary .sub (.name "a" none)
      (.binary .sub (.name "b" none) (.literal (.int 1) none) none) none)
    (.binary .lshift (.name "a" none) (.literal (.int 2) none) none) none

lemma operational_nestedComparison : Operational {} nestedComparison := by
  have hname : ∀ n ∈ ["a", "b"], ∀ line, Operational {} (.name n line) := by
    intro n hn line
    have husable : ∀ n ∈ ["a", "b"], Stub.isUsableName n = true := by decide
    exact .name ⟨husable n hn, rfl⟩ rfl rfl rfl
  exact .binary rfl (.binary rfl (hname "a" (by simp) _)
      (.binary rfl (hname "b" (by simp) _) (.number 1 _)))
    (.binary rfl (hname "a" (by simp) _) (.number 2 _))

theorem parse_operations_nested : Operational {} nestedComparison ∧
    ∃ code em' t, Emitter.run {} (expr nestedComparison) = (.ok code, em') ∧
      tree? nestedComparison = some t ∧ Target.parse code = some t :=
  ⟨operational_nestedComparison, parse_operations operational_nestedComparison⟩

end Oxidize.Emit
