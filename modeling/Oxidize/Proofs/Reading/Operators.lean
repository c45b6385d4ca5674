import Oxidize.Proofs.Reading.Calls

/-!
# What a written operation keeps

Operations, items, slices, comprehensions and format strings write all their operands, though not as
they are given: a length is compared by its receiver, an option by a question, a key without the
conversion to an owned text.
-/

namespace Oxidize.Emit

open IR (Expr BinOp)

/-! ## Comparisons -/

/-- A comparison of a length with a constant is a question to the receiver of the length. -/
lemma emptyComparison_eq_some {op : BinOp} {left right code : String}
    (h : emptyComparison op left right = some code) :
    ∃ receiver, (lengthReceiver? left = some receiver ∧ (right = "0" ∨ right = "1") ∨
      lengthReceiver? right = some receiver ∧ left = "0") ∧
      ∃ empty, code = emptyQuestion receiver empty := by
  unfold emptyComparison at h
  rcases Argument.eq_some_of_orElse h with h | h
  · obtain ⟨receiver, hreceiver, h⟩ := Option.bind_eq_some_iff.1 h
    obtain ⟨empty, hasked, rfl⟩ := Option.map_eq_some_iff.1 h
    refine ⟨receiver, .inl ⟨hreceiver, ?_⟩, empty, rfl⟩
    by_cases hzero : right = "0"
    · exact .inl hzero
    · simp [askedLeft, hzero] at hasked
      exact .inr hasked.1.1
  · obtain ⟨receiver, hreceiver, h⟩ := Option.bind_eq_some_iff.1 h
    obtain ⟨empty, hasked, rfl⟩ := Option.map_eq_some_iff.1 h
    refine ⟨receiver, .inr ⟨hreceiver, ?_⟩, empty, rfl⟩
    by_contra hzero
    simp [askedRight, hzero] at hasked

/-- A comparison of a length with a variable writes the variable and the receiver of the length. -/
lemma lengthComparison_eq_some {op : BinOp} {leftExpr rightExpr : Expr} {left right code : String}
    (h : lengthComparison op leftExpr rightExpr left right = some code) :
    ∃ sign receiver : String, lengthReceiver? right = some receiver ∧
        code = s!"({left} as usize) {sign} {receiver}.len()" ∨
      lengthReceiver? left = some receiver ∧
        code = s!"{receiver}.len() {sign} ({right} as usize)" := by
  unfold lengthComparison at h
  split at h
  · dsimp only at h
    split at h
    · rename_i receiver _ hright
      cases h
      exact ⟨_, receiver, .inl ⟨hright, rfl⟩⟩
    · rename_i receiver _ hleft _
      cases h
      exact ⟨_, receiver, .inr ⟨hleft, rfl⟩⟩
    · cases h
  · cases h

section Operations

variable {x : String} (hx : IsVariable x) {op : BinOp} {leftExpr rightExpr : Expr}
  {left right : String}
include hx

variable {code : String}

lemma stands_emptyComparison (h : emptyComparison op left right = some code)
    (hstands : Stands x left ∨ Stands x right) : Stands x code := by
  obtain ⟨receiver, hoperands, empty, rfl⟩ := emptyComparison_eq_some h
  have hreceiver : Stands x receiver := by
    rcases hoperands with ⟨hlength, hright⟩ | ⟨hlength, rfl⟩
    · rcases hstands with hstands | hstands
      · exact hstands.lengthReceiver hx hlength
      · rcases hright with rfl | rfl
        · exact (hstands.elim hx (by decide)).elim
        · exact (hstands.elim hx (by decide)).elim
    · rcases hstands with hstands | hstands
      · exact (hstands.elim hx (by decide)).elim
      · exact hstands.lengthReceiver hx hlength
  cases empty with
  | true => exact (hreceiver.seal ".is_empty()" rfl).stands
  | false => exact ((hreceiver.behind "!" rfl).seal ".is_empty()" rfl).stands

lemma stands_lengthComparison (h : lengthComparison op leftExpr rightExpr left right = some code)
    (hstands : Stands x left ∨ Stands x right) : Stands x code := by
  obtain ⟨sign, receiver, ⟨hlength, rfl⟩ | ⟨hlength, rfl⟩⟩ := lengthComparison_eq_some h
  · rcases hstands with hstands | hstands
    · have hindex := (hstands.behind "(" rfl).seal " as usize) " rfl
      exact ((((hindex.more _).more _).more _).more _).stands
    · exact (((hstands.lengthReceiver hx hlength).after _ " " rfl).seal ".len()" rfl).stands
  · rcases hstands with hstands | hstands
    · have hlen := (hstands.lengthReceiver hx hlength).seal ".len() " rfl
      exact ((((hlen.more _).more _).more _).more _).stands
    · exact ((hstands.after _ " (" rfl).seal " as usize)" rfl).stands

lemma stands_wordOperation (h : wordOperation op leftExpr left right = some code)
    (hstands : Stands x left ∨ Stands x right) : Stands x code := by
  have left_of_none (hright : (right == "None") = true) : Stands x left := by
    rcases hstands with hstands | hstands
    · exact hstands
    · rw [eq_of_beq hright] at hstands
      exact (hstands.elim hx (by decide)).elim
  unfold wordOperation at h
  split at h
  · cases h
    rcases hstands with hstands | hstands
    · exact ((hstands.seal " / " rfl).more _).stands
    · exact hstands.after _ " / " rfl
  · cases h
    exact stands_pair ".contains(&" ")" hstands.symm rfl rfl
  · cases h
    exact stands_pair ".contains(&" ")" (hstands.symm.imp_left (·.behind "!" rfl)) rfl rfl
  · cases h
    split
    · exact ((left_of_none ‹_›).seal ".is_none()" rfl).stands
    · exact stands_pair ", &" ")" (hstands.imp_left (·.behind "std::ptr::eq(&" rfl)) rfl rfl
  · cases h
    split
    · exact ((left_of_none ‹_›).seal ".is_some()" rfl).stands
    · exact stands_pair ", &" ")" (hstands.imp_left (·.behind "!std::ptr::eq(&" rfl)) rfl rfl
  · cases h
    split
    · exact stands_pair ") as f64).powf(" " as f64)" (hstands.imp_left (·.behind "((" rfl)) rfl rfl
    · exact stands_pair " as f64).powf(" " as f64)" (hstands.imp_left (·.behind "(" rfl)) rfl rfl
  · split at h
    · cases h
      refine stands_pair ", " ")" (hstands.imp_left fun h => ?_) rfl rfl
      exact h.behind "format!(\"\x7b\x7d\x7b\x7d\", " rfl
    · cases h
  · cases h

omit hx in
lemma stands_wrapped (h : Stands x code) : Stands x (wrapped code) := by
  unfold wrapped
  split
  · exact h
  · exact ((h.behind "Some(" rfl).seal ")" rfl).stands

omit hx in
lemma stands_enclosed {operand : Expr} (h : Stands x code) : Stands x (enclosed operand code) := by
  unfold enclosed
  split
  · exact ((h.behind "(" rfl).seal ")" rfl).stands
  · exact h

omit hx in
lemma stands_equated (c : Context) (leftExpr rightExpr : Expr)
    (hstands : Stands x left ∨ Stands x right) :
    Stands x (equated c leftExpr rightExpr left right).1 ∨
      Stands x (equated c leftExpr rightExpr left right).2 := by
  unfold equated
  dsimp only
  split
  · exact hstands.imp_right stands_wrapped
  split
  · exact hstands.imp_left stands_wrapped
  · exact hstands

omit hx in
lemma stands_symbolOperation {c : Context} (hstands : Stands x left ∨ Stands x right) :
    Stands x (symbolOperation c op leftExpr rightExpr left right) := by
  have hwritten {left right : String} (sign : String) (h : Stands x left ∨ Stands x right) :
      Stands x s!"{enclosed leftExpr left} {sign} {enclosed rightExpr right}" := by
    rcases h with h | h
    · exact (((((stands_enclosed h).seal " " rfl).more _).more _).more _).stands
    · exact (stands_enclosed h).after _ " " rfl
  have hequated := stands_equated c leftExpr rightExpr hstands
  unfold symbolOperation
  split
  rename_i l r hpair
  split at hpair
  · rw [hpair] at hequated
    exact hwritten _ hequated
  · rw [hpair] at hequated
    exact hwritten _ hequated
  · cases hpair
    exact hwritten _ hstands

lemma stands_operation {c : Context} (hstands : Stands x left ∨ Stands x right) :
    Stands x (operation c op leftExpr rightExpr left right) := by
  unfold operation
  cases joinsPath c op leftExpr with
  | true =>
    exact stands_pair ".join(" ")" hstands rfl rfl
  | false =>
    rw [if_neg (by simp)]
    cases hfound : (emptyComparison op left right
        <|> lengthComparison op leftExpr rightExpr left right)
        <|> wordOperation op leftExpr left right with
    | none => exact stands_symbolOperation hstands
    | some code =>
      rcases Argument.eq_some_of_orElse hfound with hfound | hword
      · rcases Argument.eq_some_of_orElse hfound with hempty | hlength
        · exact stands_emptyComparison hx hempty hstands
        · exact stands_lengthComparison hx hlength hstands
      · exact stands_wordOperation hx hword hstands

omit hx in
lemma stands_searchComparison {bound obj arg : String}
    (h : searchComparison op bound obj arg = some code) (hstands : Stands x obj ∨ Stands x arg) :
    Stands x code := by
  have hfound : Stands x s!"{obj}.contains({arg})" := by
    exact stands_pair ".contains(" ")" hstands rfl rfl
  unfold searchComparison at h
  dsimp only at h
  split at h
  · split at h <;> cases h
    · exact hfound
    · exact hfound.behind "!" rfl
  · split at h
    · split at h <;> cases h
      · exact hfound
      · exact hfound.behind "!" rfl
    · cases h

end Operations

/-! ## Items and slices -/

section Items

variable {x : String} (hx : IsVariable x) {obj index lower upper : Expr}
  {objCode indexCode lowerCode upperCode : String}

lemma stands_sliceBound (bound : Expr) {code : String} (h : Stands x code) :
    Stands x (sliceBound bound code) := by
  have hconverted (converts : Bool) :
      Stands x (if converts then s!"{code} as usize" else code) := by
    split
    · exact (h.seal " as usize" rfl).stands
    · exact h
  exact hconverted _

lemma stands_slice (h : Stands x objCode ∨ Stands x lowerCode ∨ Stands x upperCode) :
    Stands x (slice objCode lower upper lowerCode upperCode) := by
  unfold slice
  rcases h with h | h | h
  · exact (((((h.seal "[" rfl).more _).more _).more _).more _).stands
  · exact (((((stands_sliceBound lower h).after _ "[" rfl).seal ".." rfl).more _).more _).stands
  · exact (((stands_sliceBound upper h).after _ ".." rfl).seal "].to_string()" rfl).stands

include hx

/-- An item writes its index, unless it is a field of a tuple: its number is no variable. -/
lemma stands_item {c : Context}
    (h : Stands x objCode ∨ tupleField? index = none ∧ Stands x indexCode) :
    Stands x (item c obj index objCode indexCode) := by
  have hbrackets {key : String} (hkey : Stands x indexCode → Stands x key) :
      Stands x objCode ∨ Stands x indexCode → Stands x s!"{objCode}[{key}]" := by
    exact fun h => stands_pair "[" "]" (h.imp_right hkey) rfl rfl
  unfold item
  dsimp only
  split
  · rename_i number hnumber
    rcases h with h | ⟨hindex, -⟩
    · exact ((h.seal "." rfl).more _).stands
    · rw [hindex] at hnumber
      cases hnumber
  have h : Stands x objCode ∨ Stands x indexCode := h.imp_right fun h => h.2
  split
  · refine hbrackets (fun hindex => ?_) h
    split
    · rename_i text htext
      exact hindex.of_dropSuffix? hx htext ownedSuffix_dropped
    split
    · exact hindex.behind "&" rfl
    · exact hindex
  split
  · exact stands_pair "[" " as usize]" h rfl rfl
  · exact hbrackets id h

end Items

/-! ## Comprehensions, format strings and waits -/

section Texts

variable {x : String} {conditions : List String} {code : String}

lemma stands_filters (target : String) {condition : String} (hmem : condition ∈ conditions)
    (h : Stands x condition) :
    Stands x (String.join (conditions.map fun cond => s!".filter(|{target}| {cond})")) := by
  induction conditions with
  | nil => cases hmem
  | cons first conditions ih =>
    rw [List.map_cons, String.join_cons]
    rcases List.mem_cons.1 hmem with rfl | hmem
    · exact (((h.after _ "| " rfl).seal ")" rfl).more _).stands
    · exact (ih hmem).after _ ")" rfl

lemma stands_comprehension {source target element : String}
    (h : Stands x source ∨ Stands x element ∨ ∃ condition ∈ conditions, Stands x condition) :
    Stands x (comprehension source target element conditions) := by
  unfold comprehension
  dsimp only
  rcases h with h | h | ⟨condition, hmem, h⟩
  · exact (((((((h.seal ".into_iter()" rfl).more _).more _).more _).more _).more _).more _).stands
  · exact ((h.after _ "| " rfl).seal ").collect::<Vec<_>>()" rfl).stands
  · have hfilters := (stands_filters target hmem h).after source ".into_iter()" rfl
    exact (((((hfilters.seal ".map(|" rfl).more _).more _).more _).more _).stands

lemma stands_formatCall {parts : Table (Option String)} {hole : String}
    (hmem : (hole, some code) ∈ parts) (h : Stands x code) : Stands x (formatCall parts) := by
  have hargs : code ∈ parts.filterMap Prod.snd := List.mem_filterMap.2 ⟨_, hmem, rfl⟩
  unfold formatCall
  dsimp only
  split
  · rename_i hempty
    rw [List.isEmpty_iff] at hempty
    simp [hempty] at hargs
  · exact (((h.commas hargs).after _ "\", " rfl).seal ")" rfl).stands

lemma stands_awaited (hx : IsVariable x) (h : Stands x code) : Stands x (awaited code) := by
  unfold awaited
  split
  · rename_i inner hinner
    rw [Text.dropSuffix?_eq_some hinner] at h
    unfold Stands at h
    rw [String.toList_append] at h
    rcases Text.StandsIn.of_append hx.isWord h (.inr (by decide)) with h | h
    · exact (Stands.seal ".await.unwrap()" h rfl).stands
    · have hdot : Stands x ("." ++ "unwrap()") := h
      have hword := hdot.shifted hx (by decide)
      have heq : inner ++ ".await.unwrap()" = (inner ++ ".await") ++ "." ++ "unwrap()" := by
        rw [String.append_assoc, String.append_assoc]
        rfl
      show Stands x (inner ++ ".await.unwrap()")
      rw [heq]
      exact hword.after _ "." rfl
  split
  · rename_i inner hinner
    exact ((h.of_dropSuffix? hx hinner (by decide)).seal ".await?" rfl).stands
  · exact (h.seal ".await" rfl).stands

end Texts

end Oxidize.Emit
