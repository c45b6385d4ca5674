import Oxidize.Proofs.Grouping.Spelled

/-!
# Literals are read back

Only quotes and backslashes are escaped in a written text, and every other character stands for
itself. So the text can be read back from its literal, and the bytes of a byte string from theirs
(`literal_read_back`). But the format of a printed line gives braces a meaning of their own.
-/

namespace Oxidize

open List Option Text Target

namespace Target

/-- The text of a literal behind its opening quote, and what follows its closing quote. -/
def quoted? : List Char → Option (List Char × List Char)
  | '\\' :: c :: cs =>
    if c = '\\' ∨ c = '"' then (quoted? cs).map (Prod.map (c :: ·) id) else none
  | c :: cs =>
    if c = '"' then some ([], cs)
    else if c = '\\' then none
    else (quoted? cs).map (Prod.map (c :: ·) id)
  | [] => none

/-- The text of a literal behind its opening quote, if `tail` follows the literal. -/
def quotedUpTo? (tail cs : List Char) : Option (List Char) :=
  (quoted? cs).bind fun (text, rest) => if rest = tail then some text else none

def text? (code : String) : Option (List Char) :=
  match code.toList with
  | '"' :: cs => quotedUpTo? ".to_string()".toList cs
  | _ => none

def ascii? (c : Char) : Option UInt8 :=
  if c.toNat < 0x80 then some (UInt8.ofNat c.toNat) else none

def hexByte? (a b : Char) : Option UInt8 := do
  let digits := "0123456789abcdef".toList
  return UInt8.ofNat (16 * (← digits.idxOf? a) + (← digits.idxOf? b))

/-- The bytes of an array behind its opening bracket. -/
def hexBytes? : List Char → Option (List UInt8)
  | ['0', 'x', a, b, ']'] => (hexByte? a b).map ([·])
  | '0' :: 'x' :: a :: b :: ',' :: ' ' :: cs =>
    (hexByte? a b).bind fun n => (hexBytes? cs).map (n :: ·)
  | _ => none

/-- The bytes of a byte string or of an array of bytes. -/
def bytes? (code : String) : Option (List UInt8) :=
  match code.toList with
  | 'b' :: '"' :: cs => (quotedUpTo? [] cs).bind (·.mapM ascii?)
  | '[' :: cs => hexBytes? cs
  | _ => none

/-- The text that a format without arguments stands for: each of its braces is written twice. -/
def formatted? : List Char → Option (List Char)
  | '\x7b' :: '\x7b' :: cs => (formatted? cs).map ('\x7b' :: ·)
  | '\x7d' :: '\x7d' :: cs => (formatted? cs).map ('\x7d' :: ·)
  | c :: cs => if c = '\x7b' ∨ c = '\x7d' then none else (formatted? cs).map (c :: ·)
  | [] => some []

/-- What a statement prints that has a format and no arguments. A literal cannot hold a carriage
return. -/
def printed? (code : String) : Option (List Char) := do
  let format ← quotedUpTo? [')'] (← code.toList.dropPrefix? "println!(\"".toList)
  if '\r' ∈ format then none else return (← formatted? format) ++ ['\n']

lemma length_of_formatted? {cs text : List Char} (h : formatted? cs = some text) :
    text.length ≤ cs.length := by
  fun_induction formatted? cs generalizing text with
    grind [map_eq_some_iff]

lemma formatted?_eq_self_iff (cs : List Char) :
    formatted? cs = some cs ↔ '\x7b' ∉ cs ∧ '\x7d' ∉ cs := by
  -- A doubled brace is read as one, so the text is shorter than its format.
  have hdoubled (c : Char) (cs : List Char) :
      (formatted? cs).map (c :: ·) ≠ some (c :: c :: cs) := by
    intro h
    obtain ⟨text, htext, heq⟩ := map_eq_some_iff.1 h
    have hlength := length_of_formatted? htext
    rw [(List.cons.inj heq).2, length_cons] at hlength
    omega
  fun_induction formatted? cs with
  | case1 cs => simp [hdoubled]
  | case2 cs => simp [hdoubled]
  | case3 c cs _ _ h => grind
  | case4 c cs _ _ h ih =>
    obtain ⟨hleft, hright⟩ := not_or.1 h
    have hmap : (formatted? cs).map (c :: ·) = some (c :: cs) ↔ formatted? cs = some cs := by
      simp [map_eq_some_iff]
    simp [hmap, ih, Ne.symm hleft, Ne.symm hright]
  | case5 => simp

end Target

namespace Emit

def escaped (c : Char) : List Char :=
  if c = '\\' ∨ c = '"' then ['\\', c] else [c]

lemma quoted?_escaped (cs rest : List Char) :
    quoted? (cs.flatMap escaped ++ '"' :: rest) = some (cs, rest) := by
  induction cs with
  | nil => rfl
  | cons c cs ih =>
    rw [flatMap_cons, append_assoc]
    by_cases hc : c = '\\' ∨ c = '"'
    · simp [escaped, hc, quoted?, ih]
    · obtain ⟨hmark, hquote⟩ := not_or.1 hc
      simp [escaped, hmark, hquote, quoted?, ih]

lemma quotedUpTo?_escaped (tail cs : List Char) :
    quotedUpTo? tail (cs.flatMap escaped ++ '"' :: tail) = some cs := by
  simp [quotedUpTo?, quoted?_escaped]

lemma replaceChars_singleton (c : Char) (new cs : List Char) :
    replaceChars [c] new 0 cs = cs.flatMap fun d => if d = c then new else [d] := by
  induction cs with
  | nil => rfl
  | cons d cs ih =>
    by_cases hd : d = c
    · simp [replaceChars, List.isPrefixOf, hd, ih]
    · simp [replaceChars, List.isPrefixOf, hd, Ne.symm hd, ih]

lemma toList_escapeQuotes (s : String) : (escapeQuotes s).toList = s.toList.flatMap escaped := by
  simp only [escapeQuotes, replaceAll, String.toList_ofList,
    show "\\".toList = ['\\'] from rfl, show "\"".toList = ['"'] from rfl,
    replaceChars_singleton, flatMap_assoc]
  refine congrArg (List.flatMap · s.toList) (funext fun c => ?_)
  by_cases hmark : c = '\\'
  · simp [escaped, hmark]
  · by_cases hquote : c = '"' <;> simp [escaped, hmark, hquote]

lemma mapM_ascii? {bs : List UInt8} (h : ∀ b ∈ bs, b < 0x80) :
    (bs.map fun b => Char.ofNat b.toNat).mapM ascii? = some bs := by
  induction bs with
  | nil => rfl
  | cons b bs ih =>
    have hlt : b.toNat < 0x80 := UInt8.lt_iff_toNat_lt.1 (h b mem_cons_self)
    have hvalid : b.toNat.isValidChar := .inl (by omega)
    have hchar : (Char.ofNat b.toNat).toNat = b.toNat := by
      rw [Char.ofNat, dif_pos hvalid]
      rfl
    have hrest := ih fun d hd => h d (mem_cons_of_mem _ hd)
    simp [ascii?, hchar, hlt, hrest]

lemma hexBytes?_commas (b : UInt8) (bs : List UInt8) :
    hexBytes? ((Text.commas ((b :: bs).map fun b => "0x" ++ String.ofList
      (Text.hexDigits b.toNat 2))).toList ++ [']']) = some (b :: bs) := by
  have hbyte (b : UInt8) : hexByte? (Text.hexDigit (b.toNat / 16 % 16))
      (Text.hexDigit (b.toNat % 16)) = some b := by
    have hdigit : ∀ n < 16, "0123456789abcdef".toList.idxOf? (Text.hexDigit n) = some n := by decide
    have hb : 16 * (b.toNat / 16 % 16) + b.toNat % 16 = b.toNat := by
      have hlt := b.toNat_lt
      omega
    have hpos : 0 < 16 := by decide
    simp only [hexByte?, hdigit _ (Nat.mod_lt _ hpos)]
    exact congrArg some (by rw [hb, UInt8.ofNat_toNat])
  induction bs generalizing b with
  | nil => simp [Text.commas, Text.join, Text.hexDigits, hexBytes?, hbyte]
  | cons d bs ih =>
    simpa [Text.commas, Text.join, Text.hexDigits, hexBytes?, hbyte] using ih d

lemma text?_literalText (s : String) : text? (literalText (.str s)) = some s.toList := by
  have hcode : (literalText (.str s)).toList =
      '"' :: (s.toList.flatMap escaped ++ '"' :: ".to_string()".toList) := by
    show ("\"" ++ escapeQuotes s ++ "\".to_string()").toList = _
    simp [toList_escapeQuotes]
  rw [text?, hcode]
  exact quotedUpTo?_escaped ..

lemma bytes?_bytesText (bs : List UInt8) : bytes? (bytesText bs) = some bs := by
  unfold bytesText
  split
  · rename_i hascii
    have hcode (text : String) : ("b\"" ++ escapeQuotes text ++ "\"").toList =
        'b' :: '"' :: (text.toList.flatMap escaped ++ ['"']) := by
      simp [toList_escapeQuotes]
    show bytes? ("b\"" ++ escapeQuotes _ ++ "\"") = some bs
    rw [bytes?, hcode]
    show (quotedUpTo? [] _).bind _ = _
    rw [quotedUpTo?_escaped, bind_some, String.toList_ofList]
    exact mapM_ascii? (by simpa using hascii)
  · cases bs with
    | nil => exact absurd rfl ‹_›
    | cons b bs =>
      have hcode (items : String) :
          ("[" ++ items ++ "]").toList = '[' :: (items.toList ++ [']']) := by simp
      show bytes? ("[" ++ commas _ ++ "]") = _
      rw [bytes?, hcode]
      exact hexBytes?_commas b bs

/-- A written text is read back up to the call that makes an owned text of it, and a written byte
string is read back as its bytes. -/
theorem literal_read_back : (∀ s : String, Target.text? (literalText (.str s)) = some s.toList) ∧
    ∀ bs : List UInt8, Target.bytes? (literalText (.bytes bs)) = some bs :=
  ⟨text?_literalText, bytes?_bytesText⟩

lemma printed?_printCall (s : String) (line : IR.Line) :
    printed? (printCall [.literal (.str s) line] [literalText (.str s)]) =
      if '\r' ∈ s.toList then none else (formatted? s.toList).map (· ++ ['\n']) := by
  have hliteral : literalText (.str s) = "\"" ++ escapeQuotes s ++ "\"" ++ Template.ownedSuffix := by
    show "\"" ++ escapeQuotes s ++ "\".to_string()" = _
    simp [Template.ownedSuffix, ← String.toList_inj]
  have hborrowed : Template.borrowed (literalText (.str s)) = "\"" ++ escapeQuotes s ++ "\"" := by
    rw [Template.borrowed, dropSuffix, hliteral, dropSuffix?_append, getD_some]
  have hcode : printCall [.literal (.str s) line] [literalText (.str s)] =
      "println!(" ++ ("\"" ++ escapeQuotes s ++ "\"") ++ ")" := by
    unfold printCall
    dsimp only
    rw [hborrowed]
    exact if_pos (by simp [startsWith, endsWith])
  have hlist : (printCall [.literal (.str s) line] [literalText (.str s)]).toList =
      "println!(\"".toList ++ (s.toList.flatMap escaped ++ ['"', ')']) := by
    simp [hcode, toList_escapeQuotes]
  rw [printed?, hlist, dropPrefix?_append_of_beq _ BEq.rfl]
  show (quotedUpTo? [')'] _).bind _ = _
  rw [quotedUpTo?_escaped, bind_some, map_eq_bind]
  rfl

/-- The statement that is written to print a text prints the text and a line break if and only if
neither a brace nor a carriage return is in the text. -/
theorem prints_text_iff {e : Emitter} (hown : IsOwn e.ctx "print") (s : String)
    (nameLine textLine line : IR.Line) :
    ∃ code e', e.run (expr (.call (.name "print" nameLine) [.literal (.str s) textLine] [] line)) =
        (.ok code, e') ∧
      (Target.printed? code = some (s.toList ++ ['\n']) ↔
        ∀ c ∈ ['\x7b', '\x7d', '\r'], c ∉ s.toList) := by
  have hargs : Gives e.ctx e.resolver.registry.packages (exprs [.literal (.str s) textLine])
      [literalText (.str s)] := exprs_gives (by rw [expr]; exact Gives.pure _) (Gives.pure [])
  obtain ⟨e', hrun, -⟩ := builtin_gives hown rfl hargs (Gives.pure _) nameLine line e rfl rfl
  refine ⟨printCall [.literal (.str s) textLine] _, e', hrun, ?_⟩
  rw [printed?_printCall]
  by_cases hreturn : '\r' ∈ s.toList
  · simp [hreturn]
  · have hmap : (formatted? s.toList).map (· ++ ['\n']) = some (s.toList ++ ['\n']) ↔
        formatted? s.toList = some s.toList := by
      simp [map_eq_some_iff]
    simp [hreturn, hmap, formatted?_eq_self_iff]

theorem prints_text_quote : ∃ code e',
    Emitter.run {} (expr (.call (.name "print" none) [.literal (.str "a\"\\") none] [] none)) =
      (.ok code, e') ∧ Target.printed? code = some ['a', '"', '\\', '\n'] := by
  obtain ⟨code, e', hrun, hprints⟩ :=
    prints_text_iff (e := {}) ⟨rfl, rfl, rfl, rfl⟩ "a\"\\" none none none
  exact ⟨code, e', hrun, hprints.2 (by decide)⟩

/-- Braces ask for an argument that is not there. -/
theorem prints_nothing_braces : Target.printed?
    (printCall [.literal (.str "\x7b\x7d") none] [literalText (.str "\x7b\x7d")]) = none :=
  (printed?_printCall ..).trans (by decide)

end Emit

end Oxidize
