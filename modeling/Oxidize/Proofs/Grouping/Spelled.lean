import Oxidize.Proofs.Grouping.Templates

/-!
# Written operands

What is known of the text that an expression is written as (`Spelled`): how it is read, and what the
rules for lengths, options and numbers see of it. Each template keeps that, if its operands bind
tightly enough for the places that it writes them in. Here are the templates for names, numbers,
calls, fields and items.
-/

namespace Oxidize.Emit

open IR (Expr BinOp UnOp)
open Target (Reads Encloses Starts)
open Target (top level not_isNameChar_mark bareCalls prefixLevel castLevel isFraction)
open List Text Gives

/-- The text is read as the expression and binds tightly, so that a method can be called on it. -/
structure Receives (x : Expr) (inner : String) : Prop where
  reads : ∃ t, Renders x t ∧ Reads top false inner t
  unwrapped : opensSome inner = false

/-- What is known of the text that an expression is written as. -/
structure Spelled (c : Context) (e : Expr) (code : String) : Prop where
  reads : ∃ t, Renders e t ∧ Reads (binding c e) (isCast e || e.isBinary) code t
  /-- Where a rule finds a length at the end, there is one. -/
  length : ∀ tail ∈ lengthEndings, tail.toList <:+ code.toList → endsInLength c e = true
  owned : isOwnedText code = false
  receiver : ∀ x, lengthOf? e = some x → ∃ inner type, code = inner ++ ".len() as " ++ type ∧
    type ∈ intTypes ∧ Receives x inner
  wrapped : opensSome code = true → wrapsLeft c e = true
  number : isNumber code = isNumeral e
  int : ∀ n : Nat, code = toString n ↔ isInt e n = true

/-! ## What the rules see -/

lemma NoEnding.isOwnedText {code : String} (h : NoEnding code) : isOwnedText code = false := by
  cases howned : Emit.isOwnedText code with
  | false => rfl
  | true => exact absurd (isOwnedText_iff.1 howned) (h _ mem_cons_self)

variable {code f : String} {e x : Expr} {c : Context} {packages : Table Package}

lemma not_isOwnedText_of_suffix {code' : String}
    (h : ∀ tail ∈ endings, tail.toList <:+ code'.toList → tail.toList <:+ code.toList)
    (hcode : isOwnedText code = false) : isOwnedText code' = false := by
  cases howned : isOwnedText code' with
  | false => rfl
  | true =>
    have hsuffix := h _ mem_cons_self (isOwnedText_iff.1 howned)
    rw [isOwnedText_iff.2 hsuffix] at hcode
    cases hcode

lemma NoEnding.length (h : NoEnding code) (P : Prop) :
    ∀ tail ∈ lengthEndings, tail.toList <:+ code.toList → P :=
  fun tail htail hsuffix => absurd hsuffix (h tail (mem_cons_of_mem _ htail))

lemma int_of_not_number (hcode : isNumber code = false) (he : isNumeral e = false) (n : Nat) :
    code = toString n ↔ isInt e n = true := by
  refine ⟨?_, ?_⟩
  · rintro rfl
    rw [isNumber_toString] at hcode
    cases hcode
  · intro hint
    unfold isInt at hint
    split at hint
    · cases he
    · cases hint

lemma not_isNumber_of_mem {d : Char} (hd : d ∈ code.toList)
    (hmark : d ∈ [' ', '.', '(', ')', '[', ']', '!']) : isNumber code = false := by
  have hmarks : ∀ d ∈ [' ', '.', '(', ')', '[', ']', '!'], d ≠ '-' ∧ Unicode.isDigit d = false := by
    decide
  exact isNumber_of_mem hd (hmarks d hmark).1 (hmarks d hmark).2

lemma emptiness?_name (op : BinOp) (l : Expr) (n : String) (line : IR.Line) :
    emptiness? op l (.name n line) = none := by
  have hlength : lengthOf? (.name n line) = none := rfl
  have hint : ∀ i, isInt (.name n line) i = false := fun _ => rfl
  simp [emptiness?, askedLeft, hlength, hint]

lemma joinsPath_of_ne {op : BinOp} (h : op ≠ .div) (c : Context) (l : Expr) :
    joinsPath c op l = false := by
  cases op with
  | div => exact absurd rfl h
  | _ => rfl

lemma binding_of_name (h : e.name?.isSome = true) : binding c e = top := by
  cases e with
  | name n line => rfl
  | _ => cases h

lemma binding_of_wrapsLeft (h : wrapsLeft c e = true) : binding c e < level .div := by
  cases e with
  | binary op l r line =>
    simp only [wrapsLeft, isOptionVar, Bool.and_eq_true, Option.any_eq_true] at h
    obtain ⟨⟨hop, -⟩, n, hname, -⟩ := h
    cases r with
    | name n line' =>
      cases op with
      | eq | ne =>
        rw [binding, joinsPath_of_ne (by decide), emptiness?_name]
        decide
      | _ => cases hop
    | _ => cases hname
  | _ => cases h

lemma Spelled.not_opensSome (h : Spelled c e code) (hlv : level .div ≤ binding c e) :
    opensSome code = false := by
  cases hopen : opensSome code with
  | false => rfl
  | true => exact absurd hlv (Nat.not_le.2 (binding_of_wrapsLeft (h.wrapped hopen)))

/-- What begins with an operand that binds tightly does not begin with the constructor of an
option. -/
lemma Spelled.not_opensSome_append {a b : String} (h : Spelled c e a)
    (hlv : level .div ≤ binding c e) (hb : ∀ d ∈ b.toList.head?, d ∉ "Some(".toList)
    (hne : b ≠ "") : opensSome (a ++ b) = false :=
  Emit.not_opensSome_append (h.not_opensSome hlv) hb hne

lemma not_opensSome_word {w : String} (hw : ∀ c ∈ w.toList, isNameChar c = true) :
    opensSome w = false := by
  cases hopen : opensSome w with
  | false => rfl
  | true =>
    have hbegins := isPrefixOf_iff_prefix.1 hopen
    have hname := hw '(' (hbegins.subset (by decide))
    rw [not_isNameChar_mark '(' (by simp)] at hname
    cases hname

variable {line : IR.Line} {codes : List String}

/-- What is no number and has no ending that a rule looks for is passed over by the rules. -/
lemma Spelled.ofNoEnding {d : Char}
    (hreads : ∃ t, Renders e t ∧ Reads (binding c e) (isCast e || e.isBinary) code t)
    (hending : NoEnding code) (hopen : opensSome code = false)
    (hd : d ∈ code.toList) (hmark : d ∈ [' ', '.', '(', ')', '[', ']', '!'])
    (hlength : lengthOf? e = none) (hnumeral : isNumeral e = false) : Spelled c e code := by
  have hnumber := not_isNumber_of_mem hd hmark
  refine ⟨hreads, hending.length _, hending.isOwnedText, ?_, (nomatch hopen.symm.trans ·),
    hnumber.trans hnumeral.symm, int_of_not_number hnumber hnumeral⟩
  intro x hx
  rw [hlength] at hx
  cases hx

/-! ## Names and numbers -/

lemma spelled_name {n : String} (h : IsLocal c n) (line : IR.Line) :
    ∃ code, Gives c packages (expr (.name n line)) code ∧ Spelled c (.name n line) code := by
  obtain ⟨-, hchars, d, ds, hlist, hdigit⟩ := exists_of_isUsableName h.usable
  have hread := reads_name h.usable
  cases hnarrow : c.narrowed.contains n with
  | false =>
    have hnumber : isNumber n = false := by
      refine isNumber_of_mem (d := d) (by simp [hlist]) ?_ hdigit
      rintro rfl
      have hname := hchars '-' (by simp [hlist])
      rw [not_isNameChar_mark '-' (by simp)] at hname
      cases hname
    have hending := noEnding_word hchars
    exact ⟨n, nameValue_gives h.notNative hnarrow,
      { reads := ⟨_, .name n line, hread⟩
        length := hending.length _
        owned := hending.isOwnedText
        receiver := nofun
        wrapped := fun hopen => nomatch (not_opensSome_word hchars).symm.trans hopen
        number := hnumber
        int := int_of_not_number hnumber rfl }⟩
  | true =>
    have hgive : Gives c packages (nameValue n) (n ++ ".unwrap()") := by
      refine read ?_
      rw [hnarrow]
      exact pure _
    refine ⟨_, hgive, .ofNoEnding (d := '.') ⟨_, .unwrapped n line, ?_⟩
      (noEnding_tail (by simp) n) ?_ (by simp) (by decide) rfl rfl⟩
    · exact hread.method (Nat.le_refl _) (by simp [bareCalls])
    · exact not_opensSome_append (not_opensSome_word hchars) (by decide) (by decide)

lemma spelled_number {i : Int} (h : 0 ≤ i) (line : IR.Line) :
    ∃ code, Gives c packages (expr (.literal (.int i) line)) code ∧
      Spelled c (.literal (.int i) line) code := by
  obtain ⟨n, rfl⟩ := Int.eq_ofNat_of_zero_le h
  have hread := reads_number n
  have hchars : ∀ c ∈ (toString n).toList, isNameChar c = true :=
    fun c hc => isNameChar_of_mem_toString hc
  have hending := noEnding_word hchars
  refine ⟨toString n, pure _, ⟨⟨_, .number n line, hread⟩, hending.length _,
    hending.isOwnedText, nofun, ?_, isNumber_toString n, ?_⟩⟩
  · exact fun hopen => nomatch (not_opensSome_word hchars).symm.trans hopen
  · intro m
    refine ⟨fun heq => ?_, fun hint => ?_⟩
    · have hdigits := congrArg String.toList heq
      rw [Template.toList_toString, Template.toList_toString] at hdigits
      rw [← Nat.ofDigitChars_ten_toDigits (n := n), hdigits, Nat.ofDigitChars_ten_toDigits]
      simp [isInt]
    · have hsame : (n : Int) = m := by simpa [isInt] using hint
      rw [Int.ofNat_inj.1 hsame]

/-! ## Operators in front of an operand -/

lemma unary_gives {op : UnOp} (hx : Gives c packages (expr x) code) :
    Gives c packages (expr (.unary op x line)) (unarySymbol op ++ code) := by
  rw [expr]
  exact hx.bind (pure _)

lemma Spelled.unary {op : UnOp} (h : Spelled c x code) (hop : op ≠ .pos)
    (hlv : prefixLevel ≤ binding c x) (line : IR.Line) :
    Spelled c (.unary op x line) (unarySymbol op ++ code) := by
  obtain ⟨t, hrender, hread⟩ := h.reads
  have hsign : unarySymbol op ∈ "!" :: Target.signs.keys := by cases op <;> decide
  have hending : ∀ tail ∈ endings, tail.toList <:+ (unarySymbol op ++ code).toList →
      tail.toList <:+ code.toList := by
    intro tail htail hsuffix
    rw [← String.empty_append (s := unarySymbol op)] at hsuffix
    exact suffix_of_inFront htail hsign hsuffix
  obtain ⟨d, hd, hlist⟩ : ∃ d ∈ ['-', '!'], (unarySymbol op ++ code).toList = d :: code.toList := by
    cases op with
    | pos => cases hop rfl
    | neg => exact ⟨'-', by simp, by simp [unarySymbol]⟩
    | not | bitNot => exact ⟨'!', by simp, by simp [unarySymbol]⟩
  refine ⟨⟨_, .unary op line hrender, ?_⟩, ?_, ?_, nofun, ?_, ?_, ?_⟩
  · cases op with
    | pos => cases hop rfl
    | neg | not | bitNot => exact hread.inFront hlv (by simp [unarySymbol]) rfl
  · exact fun tail htail hsuffix =>
      h.length tail htail (hending tail (mem_cons_of_mem _ htail) hsuffix)
  · exact not_isOwnedText_of_suffix hending h.owned
  · intro hopen
    have hne : d ≠ 'S' := by
      rintro rfl
      exact absurd hd (by decide)
    exact nomatch (not_opensSome_of_head (congrArg head? hlist) hne).symm.trans hopen
  · cases op with
    | pos => cases hop rfl
    | neg => rw [unarySymbol, isNumber_neg, h.number]; rfl
    | not | bitNot =>
      exact not_isNumber_of_mem (d := '!') (by simp [unarySymbol]) (by decide)
  · refine fun n => ⟨fun heq => ?_, nofun⟩
    have hdigit : d.isDigit = true := by
      refine isDigit_of_mem_toString (n := n) ?_
      rw [← heq, hlist]
      exact mem_cons_self
    have hsigns : ∀ d ∈ ['-', '!'], d.isDigit = false := by decide
    rw [hsigns d hd] at hdigit
    cases hdigit

/-! ## Calls -/

/-- No import and no class gives the name of a function a meaning of its own. -/
structure IsOwn (c : Context) (f : String) : Prop where
  notNarrowed : c.narrowed.contains f = false
  notNative : c.nativeImports.get? f = none
  notImported : c.crateImports.get? f = none
  notClass : c.classNames.contains f = false

lemma exprs_gives {e : Expr} {es : List Expr} {code : String}
    (he : Gives c packages (expr e) code) (hes : Gives c packages (exprs es) codes) :
    Gives c packages (exprs (e :: es)) (code :: codes) := by
  rw [exprs]
  exact he.bind (hes.bind (pure _))

lemma builtin_gives {args : List Expr} {text : String} (hf : IsOwn c f)
    (hne : (f == "Path") = false) (hargs : Gives c packages (exprs args) codes)
    (htext : Gives c packages (builtinCall f args codes) (some text)) (nameLine line : IR.Line) :
    Gives c packages (expr (.call (.name f nameLine) args [] line)) text := by
  have hmapped : Gives c packages (mappedFunction (.name f nameLine) codes (namedExprs [])) none := by
    have hnative : Gives c packages (nativeCall f none codes) none :=
      (nativeMapping?_gives hf.notNative none).bind (pure none)
    refine hnative.bind ?_
    refine read ?_
    rw [hf.notImported]
    exact pure none
  have hpath : Gives c packages (pathCall f codes) none := by
    unfold pathCall
    rw [hne]
    exact pure none
  have hnew : Gives c packages (importedConstructor (.name f nameLine) codes) none := by
    refine read ?_
    rw [hf.notImported]
    exact pure none
  rw [expr]
  refine hargs.bind ?_
  refine hmapped.bind ?_
  refine (nameValue_gives hf.notNative hf.notNarrowed).bind ?_
  refine hpath.bind ?_
  refine hnew.bind ?_
  refine read ?_
  rw [hf.notClass]
  exact htext.bind (pure _)

lemma call_gives {text : String} (hf : IsBuiltin c f) (hx : Gives c packages (expr x) code)
    (htext : Gives c packages (builtinCall f [x] [code]) (some text)) (nameLine line : IR.Line) :
    Gives c packages (expr (.call (.name f nameLine) [x] [] line)) text := by
  have hname : ∀ f ∈ ["len", "float", "int"], (f == "Path") = false := by decide
  exact builtin_gives ⟨hf.notNarrowed, hf.notNative, hf.notImported, hf.notClass⟩ (hname f hf.name)
    (exprs_gives hx (Gives.pure [])) htext nameLine line

lemma Spelled.len {c : Context} {x : Expr} {code type : String} (h : Spelled c x code)
    (hlv : top ≤ binding c x) (htype : type ∈ intTypes) (nameLine line : IR.Line) :
    Spelled c (.call (.name "len" nameLine) [x] [] line) (code ++ ".len() as " ++ type) := by
  obtain ⟨t, hrender, hread⟩ := h.reads
  have htext : code ++ ".len() as " ++ type = code ++ ".len()" ++ " as " ++ type := by
    simp only [String.append_assoc, ← len_append_as]
  have howned : ∀ type ∈ intTypes, ¬ Template.ownedSuffix.toList <:+ (".len() as " ++ type).toList ∧
        ¬ (".len() as " ++ type).toList <:+ Template.ownedSuffix.toList := by
    decide
  have hnumber : isNumber (code ++ ".len() as " ++ type) = false :=
    not_isNumber_of_mem (d := '.') (by simp) (by decide)
  refine ⟨⟨.cast (.method t "len" none []) type, .len nameLine line hrender, ?_⟩, fun _ _ _ => rfl,
    ?_, ?_, ?_, hnumber, int_of_not_number hnumber rfl⟩
  · rw [htext]
    exact (hread.method hlv (by simp [bareCalls])).cast (by decide) (mem_cons_of_mem _ htype)
  · rw [← Bool.not_eq_true, isOwnedText_iff, String.append_assoc]
    exact not_suffix_append code (howned type htype)
  · rintro _ ⟨⟩
    refine ⟨code, type, rfl, htype, ⟨t, hrender, hread.atTop hlv⟩, ?_⟩
    exact h.not_opensSome (Nat.le_trans (by decide) hlv)
  · intro hopen
    rw [String.append_assoc] at hopen
    exact nomatch (h.not_opensSome_append (Nat.le_trans (by decide) hlv) (by simp)
      (by simp)).symm.trans hopen

lemma castLevel_le_of_isNumeral (h : isNumeral e = true) : castLevel ≤ binding c e := by
  cases e with
  | literal value line => exact Nat.le_trans (by decide) (Nat.le_refl top)
  | unary op x line => exact Nat.le_trans (by decide) (Nat.le_refl prefixLevel)
  | _ => cases h

lemma Spelled.float {c : Context} {x : Expr} {code : String} (h : Spelled c x code)
    (hlv : castLevel ≤ binding c x) (nameLine line : IR.Line) :
    Spelled c (.call (.name "float" nameLine) [x] [] line) (code ++ " as f64") := by
  obtain ⟨t, hrender, hread⟩ := h.reads
  refine .ofNoEnding (d := ' ') ⟨_, .float nameLine line hrender, ?_⟩
    (noEnding_tail (by simp) code) ?_ (by simp) (by decide) rfl rfl
  · have htext : code ++ " as f64" = code ++ " as " ++ "f64" := by
      rw [String.append_assoc]
      rfl
    rw [htext]
    exact hread.cast hlv (by simp)
  · exact h.not_opensSome_append (Nat.le_trans (by decide) hlv) (by decide) (by decide)

/-- What a rule takes for a number is converted, and all else is parsed. -/
lemma Spelled.intCall_eq (h : Spelled c x code) :
    intCall code = if isNumeral x then code ++ " as i64"
      else code ++ ".parse::<i64>()" ++ ".unwrap()" := by
  obtain ⟨t, -, hread⟩ := h.reads
  have hquote : startsWith code "\"" = false := by
    cases hstart : startsWith code "\"" with
    | false => rfl
    | true =>
      obtain ⟨rest, hrest⟩ := isPrefixOf_iff_prefix.1 hstart
      have hstarts := hread.starts
      rw [Starts, ← hrest, show "\"".toList = ['"'] by decide] at hstarts
      have hstarter : Target.isStarter '"' = true := hstarts
      simp [Target.isStarter, not_isNameChar_mark] at hstarter
  have howned : endsWith code Template.ownedSuffix = false := h.owned
  have hnumber : isDigits (trimStartWhile code (· == '-')) = isNumeral x := h.number
  rw [intCall, howned, hquote, hnumber]
  cases isNumeral x with
  | true => rfl
  | false =>
    rw [String.append_assoc]
    rfl

lemma Spelled.int_call (h : Spelled c x code)
    (hlv : isNumeral x = true ∨ top ≤ binding c x) (nameLine line : IR.Line) :
    Spelled c (.call (.name "int" nameLine) [x] [] line) (intCall code) := by
  obtain ⟨t, hrender, hread⟩ := h.reads
  rw [h.intCall_eq]
  cases hnumeral : isNumeral x with
  | true =>
    have hcast : castLevel ≤ binding c x := castLevel_le_of_isNumeral hnumeral
    refine .ofNoEnding (d := ' ') ⟨_, .int nameLine line hrender, ?_⟩ ?_ ?_
      (by simp) (by decide) rfl rfl
    · have htext : code ++ " as i64" = code ++ " as " ++ "i64" := by
        rw [String.append_assoc]
        rfl
      have hbinding : binding c (.call (.name "int" nameLine) [x] [] line) = castLevel := by
        simp [binding, isCast, hnumeral]
      have htyped : isCast (.call (.name "int" nameLine) [x] [] line) = true := by
        simp [isCast, hnumeral]
      rw [if_pos rfl, htext, hbinding, htyped]
      exact hread.cast hcast (by simp [intTypes])
    -- An ending has a parenthesis, and a number has none.
    · intro tail htail hsuffix
      have hmem := hsuffix.subset (paren_mem_ending tail htail)
      have hcode : '(' ∈ code.toList := by simpa using hmem
      have hnone := not_isNumber_of_mem hcode (by decide)
      rw [h.number, hnumeral] at hnone
      cases hnone
    · exact h.not_opensSome_append (Nat.le_trans (by decide) hcast) (by decide) (by decide)
  | false =>
    have htop : top ≤ binding c x := hlv.resolve_left (by simp [hnumeral])
    refine .ofNoEnding (d := '.') ⟨_, .parsed nameLine line hrender, ?_⟩
      (noEnding_tail (by simp) _) ?_ (by simp) (by decide) rfl rfl
    · have hbinding : binding c (.call (.name "int" nameLine) [x] [] line) = top := by
        simp [binding, isCast, hnumeral]
      have htyped : isCast (.call (.name "int" nameLine) [x] [] line) = false := by
        simp [isCast, hnumeral]
      rw [if_neg Bool.false_ne_true, hbinding, htyped]
      exact (hread.typedMethod htop (by decide)).method (Nat.le_refl _) (by simp [bareCalls])
    · rw [if_neg Bool.false_ne_true, String.append_assoc]
      exact h.not_opensSome_append (Nat.le_trans (by decide) htop) (by decide) (by decide)

lemma spelled_call (hf : IsBuiltin c f) (hgive : Gives c packages (expr x) code)
    (h : Spelled c x code) (nameLine line : IR.Line)
    (hfits : Fits c (.call (.name f nameLine) [x] [] line)) :
    ∃ text, Gives c packages (expr (.call (.name f nameLine) [x] [] line)) text ∧
      Spelled c (.call (.name f nameLine) [x] [] line) text := by
  rcases mem_cons.1 hf.name with rfl | hname
  · obtain ⟨type, htype, hlength⟩ : ∃ type ∈ intTypes,
        Gives c packages (lengthCall [code]) (code ++ ".len() as " ++ type) := by
      refine ⟨((c.targetType.filter (· != "") <|> c.returnType).filter intTypes.contains).getD "i64",
        ?_, read ((pure _).bind (pure _))⟩
      cases hexpected : (c.targetType.filter (· != "") <|> c.returnType).filter intTypes.contains with
      | none => decide
      | some type => simpa using (Option.filter_eq_some_iff.1 hexpected).2
    exact ⟨_, call_gives hf hgive (hlength.bind (pure _)) nameLine line,
      h.len (by simpa [Fits] using hfits) htype nameLine line⟩
  · rcases mem_cons.1 hname with rfl | hname
    · exact ⟨_, call_gives hf hgive ((pure _).bind (pure _)) nameLine line,
        h.float (by simpa [Fits] using hfits) nameLine line⟩
    · obtain rfl := mem_singleton.1 hname
      exact ⟨_, call_gives hf hgive ((pure _).bind (pure _)) nameLine line,
        h.int_call (by simpa [Fits] using hfits) nameLine line⟩

/-! ## Fields and items -/

/-- The type of an expression that is written by a template is looked up without a change. -/
lemma inferType_gives (h : Throughout (Templated c packages) e) :
    ∃ type, Gives c packages (inferType e) type := by
  induction h with
  | @intro e he _ ih =>
    cases e with
    | name n line =>
      rw [inferType]
      cases htype : c.typeEnv.get? n with
      | none => exact ⟨c.importedType? n, read (by rw [htype]; exact pure _)⟩
      | some type =>
        exact ⟨some (c.knownType type), read (by rw [htype]; exact pure _)⟩
    | attr x member line =>
      obtain ⟨type, htype⟩ := ih x (by simp [templateOperands])
      rw [inferType]
      cases type with
      | none => exact ⟨none, htype.bind (pure none)⟩
      | some receiver =>
        cases hstate : receiver.name == "Context" && member == "state" with
        | true =>
          exact ⟨_, htype.bind (b := some ⟨"State", receiver.crate⟩) (by
            simp only [hstate]
            exact pure _)⟩
        | false =>
          exact ⟨_, htype.bind (b := none) (by
            simp only [hstate]
            exact pure _)⟩
    | call func args kwargs line =>
      obtain ⟨f, _, _, rfl, rfl, rfl, hf⟩ := he.of_call
      have hnone : c.importedType? f = none := by rw [Context.importedType?, hf.notImported]; rfl
      rw [inferType]
      exact ⟨none, read (by rw [hnone]; exact pure none)⟩
    | binary op l r line | unary op x line | literal value line | subscript x i line =>
      simp only [inferType]
      exact ⟨none, pure none⟩
    | _ => exact he.elim

lemma memberOfName_gives {n member : String} (hlocal : IsLocal c n)
    (h : IsField c packages n member) (emitObj : Emit String) :
    Gives c packages (memberOfName n member emitObj) none := by
  have hmapping : Gives c packages (lookup (Library.mapping? n member)) none := by
    intro em hctx hpackages
    have hfound : em.resolver.registry.found? none
        (fun p => p.functions.get? s!"{n}.{member}") = none := by
      rw [Registry.found?, hpackages, findSome?_eq_none_iff]
      intro p hp
      rw [h.notPackaged p hp]
      rfl
    obtain ⟨log, hrun⟩ : ∃ log, (Library.mapping? n member).run em.resolver.registry =
        (none, { em.resolver.registry with log }) := by
      simp only [Library.mapping?, h.notLibrary, Registry.function?]
      rw [StateT.run_bind, StateT.run_get, pure_bind, hfound]
      exact ⟨_, rfl⟩
    have hlookup : em.run (lookup (Library.mapping? n member)) =
        (.ok ((Library.mapping? n member).run em.resolver.registry).1,
          { em with resolver := { em.resolver with
              registry := ((Library.mapping? n member).run em.resolver.registry).2 } }) := rfl
    rw [hrun] at hlookup
    exact ⟨_, hlookup, hctx, hpackages⟩
  have hcalendar : Gives c packages (calendarField n member emitObj) none := by
    refine read ?_
    rw [h.notCalendar]
    exact pure none
  refine (nativeMapping?_gives hlocal.notNative (some member)).bind ?_
  refine hmapping.bind ?_
  refine hcalendar.bind ?_
  refine read ?_
  rw [h.notImported]
  exact pure none

lemma reads_member {t : Target.Expr} {lv : Nat} {typed : Bool} {member : String}
    (h : Reads lv typed code t) (hlv : top ≤ lv) (hmember : Stub.isUsableName member = true) :
    Reads top false (code ++ "." ++ member) (.field t member) := by
  obtain ⟨-, hchars, d, ds, hlist, hdigit⟩ := exists_of_isUsableName hmember
  have hfraction : isFraction t member = false := by
    have hascii := Unicode.not_isDigit_ascii hdigit
    cases t <;> simp [isFraction, hlist, hascii]
  have hne : member ≠ "" := by
    rintro rfl
    cases hlist
  exact h.field hlv hne hchars hfraction

lemma Spelled.member {c : Context} {x : Expr} {code member : String} (h : Spelled c x code)
    (hlv : top ≤ binding c x) (hmember : Stub.isUsableName member = true) (line : IR.Line) :
    Spelled c (.attr x member line) (code ++ "." ++ member) ∧
      Spelled c (.attr x member line) (code ++ "." ++ member ++ ".clone()") := by
  obtain ⟨t, hrender, hread⟩ := h.reads
  have hchars := (exists_of_isUsableName hmember).2.1
  have hfield := reads_member hread hlv hmember
  have hopen (tail : String) : opensSome (code ++ ("." ++ tail)) = false :=
    h.not_opensSome_append (Nat.le_trans (by decide) hlv) (by simp) (by simp)
  refine ⟨?_, ?_⟩
  · refine .ofNoEnding (d := '.') ⟨_, .field member line hrender, hfield⟩ (noEnding_member code hchars)
      ?_ (by simp) (by decide) rfl rfl
    rw [String.append_assoc]
    exact hopen _
  · refine .ofNoEnding (d := '.') ⟨_, .cloned member line hrender, ?_⟩
      (noEnding_tail (by simp) _) ?_ (by simp) (by decide) rfl rfl
    · exact hfield.method (Nat.le_refl _) (by simp [bareCalls])
    · rw [String.append_assoc, String.append_assoc]
      exact hopen _

lemma spelled_attr {member : String}
    (hform : Throughout (Templated c packages) (.attr x member line))
    (hgive : Gives c packages (expr x) code) (h : Spelled c x code) (hlv : top ≤ binding c x) :
    ∃ text, Gives c packages (expr (.attr x member line)) text ∧
      Spelled c (.attr x member line) text := by
  obtain ⟨⟨hmember, hfield⟩, hoperands⟩ := hform
  have hx := hoperands x (by simp [templateOperands])
  obtain ⟨type, htype⟩ := inferType_gives hx
  have hmapped : Gives c packages (mappedField x (expr x) member) none := by
    cases x with
    | name n line' =>
      obtain ⟨hlocal, -⟩ := hx
      exact memberOfName_gives hlocal (hfield n rfl) _
    | _ => exact pure none
  obtain ⟨hplain, hcloned⟩ := h.member hlv hmember line
  rw [expr]
  cases hshared : (type.map KnownType.name) == some "InternalData" && sharedFields.contains member with
  | true =>
    refine ⟨code ++ "." ++ member ++ ".clone()", ?_, hcloned⟩
    refine hmapped.bind (htype.bind (hgive.bind ?_))
    rw [hshared]
    exact pure _
  | false =>
    refine ⟨code ++ "." ++ member, ?_, hplain⟩
    refine hmapped.bind (htype.bind (hgive.bind ?_))
    rw [hshared]
    exact pure _

lemma Renders.eq_literal {s : String} (h : Renders e (.number s)) :
    ∃ (n : Nat) (line : IR.Line), e = .literal (.int n) line := by
  generalize ht : Target.Expr.number s = t at h
  cases h with
  | number n line => exact ⟨n, line, rfl⟩
  | @question op l r x empty t line hempty hx => cases empty <;> cases ht
  | _ => cases ht

lemma not_isField_literal {n : Nat} (h : Spelled c (.literal (.int n) line) code) :
    (startsWith code "(" || isTuple c (.literal (.int n) line)) = false := by
  have hcode : code = toString n := (h.int n).2 (by simp [isInt])
  have hstart : startsWith code "(" = false := by
    cases hstart : startsWith code "(" with
    | false => rfl
    | true =>
      have hparen := ( isPrefixOf_iff_prefix.1 hstart).subset (mem_singleton.2 rfl)
      rw [hcode] at hparen
      exact nomatch isDigit_of_mem_toString hparen
  rw [hstart]
  rfl

lemma Spelled.item {c : Context} {x i : Expr} {code index : String} (hx : Spelled c x code)
    (hi : Spelled c i index) (hlv : top ≤ binding c x)
    (hnumber : ∀ number, tupleField? i = some number →
      ∃ (n : Nat) (line : IR.Line), i = .literal (.int n) line ∧ number = toString n)
    (line : IR.Line) : Spelled c (.subscript x i line) (item c x i code index) := by
  obtain ⟨t, hrender, hread⟩ := hx.reads
  obtain ⟨ti, hrenderi, hreadi⟩ := hi.reads
  have hopen : ∀ b : String, b.toList.head? = some '.' ∨ b.toList.head? = some '[' →
      opensSome (code ++ b) = false := by
    intro b hhead
    refine hx.not_opensSome_append (Nat.le_trans (by decide) hlv) ?_ ?_
    · rcases hhead with hhead | hhead <;> simp [hhead]
    · rintro rfl
      simp at hhead
  have hindexed : ∀ {key : String} {tk : Target.Expr}, Encloses key tk →
      Renders (.subscript x i line) (.index t tk) →
      Spelled c (.subscript x i line) (code ++ "[" ++ key ++ "]") := by
    intro key tk hkey hindex
    refine .ofNoEnding (d := '[') ⟨_, hindex, hread.index hlv hkey⟩ (noEnding_tail (by simp) _)
      ?_ (by simp) (by decide) rfl rfl
    rw [String.append_assoc, String.append_assoc]
    exact hopen _ (.inr (by simp))
  cases hfield : (tupleField? i).filter fun _ => startsWith code "(" || isTuple c x with
  | some number =>
    have hitem : Emit.item c x i code index = code ++ "." ++ number := by
      simp only [Emit.item, hfield]
      rfl
    rw [hitem]
    obtain ⟨hsome, htuple⟩ := Option.filter_eq_some_iff.1 hfield
    obtain ⟨n, line', rfl, rfl⟩ := hnumber number hsome
    have hfraction : isFraction t (toString n) = false := by
      cases t with
      | number s =>
        obtain ⟨m, line', rfl⟩ := hrender.eq_literal
        rw [not_isField_literal hx] at htuple
        cases htuple
      | _ => rfl
    have hchars : ∀ d ∈ (toString n).toList, isNameChar d = true :=
      fun d hd => isNameChar_of_mem_toString hd
    refine .ofNoEnding (d := '.') ⟨_, .component n line' line hrender,
      hread.field hlv (toString_ne_empty n) hchars hfraction⟩ (noEnding_member code hchars) ?_
      (by simp) (by decide) rfl rfl
    rw [String.append_assoc]
    exact hopen _ (.inl (by simp))
  | none =>
    have howned : dropSuffix? index Template.ownedSuffix = none := by
      cases hdrop : dropSuffix? index Template.ownedSuffix with
      | none => rfl
      | some text =>
        have hsuffix := toList_suffix text Template.ownedSuffix
        rw [← dropSuffix?_eq_some hdrop] at hsuffix
        exact nomatch hi.owned.symm.trans (isOwnedText_iff.2 hsuffix)
    have hplain := hindexed hreadi.encloses (.item line hrender hrenderi)
    cases hvar : i.name?.isSome with
    | false =>
      simp only [Emit.item, hfield, howned, hvar, Bool.false_eq_true, if_false]
      split <;> exact hplain
    | true =>
      rw [binding_of_name hvar] at hreadi
      simp only [Emit.item, hfield, howned, hvar, if_true]
      split
      · exact hindexed (hreadi.borrowed (by decide)) (.key line hrender hrenderi)
      · have hcast : Reads castLevel true (index ++ " as " ++ "usize") (.cast ti "usize") :=
          hreadi.cast (by decide) (by simp [intTypes])
        have htext : code ++ "[" ++ index ++ " as usize]" =
            code ++ "[" ++ (index ++ " as " ++ "usize") ++ "]" := by
          simp only [String.append_assoc]
          rfl
        exact htext ▸ hindexed hcast.encloses (.position line hrender hrenderi)

end Oxidize.Emit
