import Oxidize.Proofs.Reading.Words

/-!
# Tokens of written expressions

A text of the target language is read as a list of words and signs. A word is a run of characters
of identifiers, a sign is one other character or two that belong together, and blanks only
separate. Two texts that are written next to each other have the tokens of the one followed by
those of the other, unless their last and first character belong to one token (`tokens_append`).
-/

namespace Oxidize.Text.Unicode

variable {c : Char}

/-! ## Digits are no beginnings of identifiers -/

/-- Is there no code point that has both properties? Each step goes on to the end of the stretch
that ends first, so the sum of the lengths of the lists is enough `fuel`. -/
def CharRuns.areApart : Nat → Bool → CharRuns → Bool → CharRuns → Bool
  | fuel + 1, x, k :: ks, y, l :: ls =>
    if x && y then false
    else if k < l then areApart fuel (!x) ks y ((l - k) :: ls)
    else if l < k then areApart fuel x ((k - l) :: ks) (!y) ls
    else areApart fuel (!x) ks (!y) ls
  | _, x, [], y, [] => !(x && y)
  | _, x, [], _, _ :: _ => !x
  | _, _, _ :: _, y, [] => !y
  | 0, _, _, _, _ => false

lemma CharRuns.holdsNat_sub {k l n : Nat} (hn : k ≤ n) (hl : k ≤ l) (y : Bool) (ls : CharRuns) :
    holdsNat y ((l - k) :: ls) (n - k) = holdsNat y (l :: ls) n := by
  have hrest : n - k - (l - k) = n - l := by omega
  have hlt : n - k < l - k ↔ n < l := by omega
  simp only [holdsNat, hlt, hrest]

lemma CharRuns.holdsNat_of_areApart {fuel n : Nat} {x y : Bool} {ks ls : CharRuns}
    (h : areApart fuel x ks y ls = true) (hks : holdsNat x ks n = true) :
    holdsNat y ls n = false := by
  fun_induction areApart fuel x ks y ls generalizing n with
  | case1 => cases h
  | case2 fuel x k ks y l ls hboth hlt ih =>
    by_cases hn : n < k
    · rw [holdsNat, if_pos hn] at hks
      rw [holdsNat, if_pos (by omega)]
      simpa [hks] using hboth
    · rw [holdsNat, if_neg hn] at hks
      rw [← ih h hks, holdsNat_sub (by omega) (by omega)]
  | case3 fuel x k ks y l ls hboth _ hlt ih =>
    by_cases hn : n < l
    · rw [holdsNat, if_pos (by omega)] at hks
      rw [holdsNat, if_pos hn]
      simpa [hks] using hboth
    · rw [← holdsNat_sub (by omega : l ≤ n) (by omega)] at hks
      rw [holdsNat, if_neg hn, ih h hks]
  | case4 fuel x k ks y l ls hboth _ _ ih =>
    have hsame : k = l := by omega
    by_cases hn : n < l
    · rw [holdsNat, if_pos (by omega)] at hks
      rw [holdsNat, if_pos hn]
      simpa [hks] using hboth
    · rw [hsame, holdsNat, if_neg hn] at hks
      rw [holdsNat, if_neg hn, ih h hks]
  | case5 | case6 | case7 => simp_all [holdsNat]
  | case8 => cases h

lemma isIdentifierStart_of_isDigit (h : isDigit c = true) : isIdentifierStart c = false := by
  have hstart : CharRuns.areApart 1000 false digitRuns false startOnlyRuns = true := by
    decide +kernel
  have hletter : CharRuns.areApart 2000 false digitRuns false letterRuns = true := by
    decide +kernel
  have hholds : CharRuns.holds startOnlyRuns c = false ∧ isLetter c = false :=
    ⟨CharRuns.holdsNat_of_areApart hstart h, CharRuns.holdsNat_of_areApart hletter h⟩
  simp [isIdentifierStart, hholds]

lemma isDigit_of_ascii (h : c.isDigit = true) : isDigit c = true :=
  CharRuns.holds_of_isDigit h

lemma not_isDigit_ascii (h : isDigit c = false) : c.isDigit = false := by
  rw [← Bool.not_eq_true] at *
  exact mt isDigit_of_ascii h

end Oxidize.Text.Unicode

namespace Oxidize.Target

open Text (isNameChar)

inductive Token where
  | word (text : String)
  | sign (text : String)
  deriving DecidableEq

/-- The characters that belong together if they follow each other. The last two pairs begin a
comment. -/
def signPairs : List (Char × Char) :=
  [('=', '='), ('!', '='), ('<', '='), ('>', '='), ('&', '&'), ('|', '|'), ('<', '<'), ('>', '>'),
   (':', ':'), ('.', '.'), ('-', '>'), ('=', '>'), ('+', '='), ('-', '='), ('*', '='), ('/', '='),
   ('%', '='), ('^', '='), ('&', '='), ('|', '='), ('/', '/'), ('/', '*')]

def isPair (c d : Char) : Bool :=
  signPairs.contains (c, d)

def continues (unfinished : List Char) (d : Char) : Bool :=
  unfinished.getLast?.any fun c =>
    (isNameChar c && isNameChar d) || (unfinished.length == 1 && isPair c d)

def blanks : List Char :=
  [' ', '\t', '\n', '\r']

/-- The token that a character begins, which is none if it is a blank. -/
def opened (c : Char) : List Char :=
  if blanks.contains c then [] else [c]

def ended : List Char → List Token
  | [] => []
  | c :: cs =>
    if isNameChar c then [.word (String.ofList (c :: cs))] else [.sign (String.ofList (c :: cs))]

def tokensAfter (unfinished : List Char) : List Char → List Token
  | [] => ended unfinished
  | c :: cs =>
    if continues unfinished c then tokensAfter (unfinished ++ [c]) cs
    else ended unfinished ++ tokensAfter (opened c) cs

def tokens (text : String) : List Token :=
  tokensAfter [] text.toList

def apart (c d : Char) : Bool :=
  !(isNameChar c && isNameChar d) && !isPair c d

lemma continues_eq_false {unfinished : List Char} {d : Char}
    (h : ∀ c ∈ unfinished.getLast?, apart c d = true) : continues unfinished d = false := by
  unfold continues
  cases hlast : unfinished.getLast? with
  | none => rfl
  | some c =>
    have hc := h c hlast
    simp only [apart, Bool.and_eq_true, Bool.not_eq_true'] at hc
    simp [hc.1, hc.2]

lemma tokensAfter_append {unfinished a b : List Char}
    (hjoin : ∀ d ∈ b.head?, ∀ c ∈ (unfinished ++ a).getLast?, apart c d = true) :
    tokensAfter unfinished (a ++ b) = tokensAfter unfinished a ++ tokensAfter [] b := by
  induction a generalizing unfinished with
  | nil =>
    cases b with
    | nil => simp [tokensAfter, ended]
    | cons d b =>
      have hnew : continues unfinished d = false :=
        continues_eq_false (by simpa using hjoin d (by simp))
      have hfirst : continues [] d = false := rfl
      simp [tokensAfter, hnew, hfirst, ended]
  | cons c a ih =>
    rw [List.cons_append, tokensAfter, tokensAfter]
    split
    · exact ih (by simpa using hjoin)
    · rw [ih, List.append_assoc]
      -- What the character begins ends where the text ends.
      intro d hd e he
      refine hjoin d hd e ?_
      cases a with
      | nil =>
        have hc : e ∈ [c].getLast? := by
          unfold opened at he
          split at he
          · simp at he
          · simpa using he
        simpa using hc
      | cons f a => simpa using he

/-- Texts whose last and first character do not belong together are read one after the other. -/
lemma tokens_append {a b : String}
    (hjoin : ∀ d ∈ b.toList.head?, ∀ c ∈ a.toList.getLast?, apart c d = true) :
    tokens (a ++ b) = tokens a ++ tokens b := by
  rw [tokens, String.toList_append]
  exact tokensAfter_append (by simpa using hjoin)

lemma isNameChar_of_blank (h : blanks.contains c = true) : isNameChar c = false := by
  have hall : blanks.all (fun c => !isNameChar c) = true := by decide
  simpa using List.all_eq_true.1 hall c (List.contains_iff_mem.1 h)

lemma tokensAfter_word {cs w : List Char} (hc : isNameChar c = true)
    (hcs : ∀ d ∈ cs, isNameChar d = true) (hw : ∀ d ∈ w, isNameChar d = true) :
    tokensAfter (c :: cs) w = [.word (String.ofList (c :: cs ++ w))] := by
  induction w generalizing cs with
  | nil => simp [tokensAfter, ended, hc]
  | cons d w ih =>
    have hd : isNameChar d = true := hw d (by simp)
    have hjoined : continues (c :: cs) d = true := by
      obtain ⟨e, he⟩ : ∃ e, (c :: cs).getLast? = some e := ⟨_, List.getLast?_cons⟩
      have hname : isNameChar e = true := by
        rcases List.mem_cons.1 (List.mem_of_getLast? he) with rfl | hmem
        · exact hc
        · exact hcs e hmem
      simp [continues, he, hname, hd]
    rw [tokensAfter, if_pos hjoined, List.cons_append, ih]
    · simp
    · intro e he
      rcases List.mem_append.1 he with he | he
      · exact hcs e he
      · rw [List.mem_singleton.1 he, hd]
    · exact fun e he => hw e (by simp [he])

lemma tokens_word {w : String} (hne : w ≠ "") (h : ∀ c ∈ w.toList, isNameChar c = true) :
    tokens w = [.word w] := by
  obtain ⟨c, cs, hlist⟩ : ∃ c cs, w.toList = c :: cs :=
    List.exists_cons_of_ne_nil (by simpa using hne)
  have hc : isNameChar c = true := h c (by simp [hlist])
  have hblank : blanks.contains c = false := by
    cases hblank : blanks.contains c with
    | false => rfl
    | true => rw [isNameChar_of_blank hblank] at hc; cases hc
  rw [tokens, hlist, tokensAfter, if_neg (by simp [continues]), opened, hblank]
  simp only [ended, List.nil_append, Bool.false_eq_true, if_false]
  rw [tokensAfter_word hc (by simp) fun d hd => h d (by simp [hlist, hd])]
  simp [← hlist]

/-! ## Beginnings and ends of operands -/

def isStarter (c : Char) : Bool :=
  isNameChar c || c == '(' || c == '-' || c == '!'

def isEnder (c : Char) : Bool :=
  isNameChar c || c == ')' || c == ']'

/-- No sign of two characters has a character of words, and none begins with a bracket that
closes. -/
lemma isPair_of_isEnder (hc : isEnder c = true) (d : Char) : isPair c d = false := by
  cases hpair : isPair c d with
  | false => rfl
  | true =>
    have hfirst : signPairs.all (fun p => !isEnder p.1) = true := by decide
    have hc' := List.all_eq_true.1 hfirst (c, d) (List.contains_iff_mem.1 hpair)
    simp [hc] at hc'

lemma isPair_of_isStarter {d : Char} (hd : isStarter d = true) (c : Char) : isPair c d = false := by
  cases hpair : isPair c d with
  | false => rfl
  | true =>
    have hsecond : signPairs.all (fun p => !isStarter p.2) = true := by decide
    have hd' := List.all_eq_true.1 hsecond (c, d) (List.contains_iff_mem.1 hpair)
    simp [hd] at hd'

end Oxidize.Target
