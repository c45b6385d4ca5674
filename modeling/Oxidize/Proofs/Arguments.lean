import Oxidize.Proofs.Grouping.Expressions

/-!
# Arguments that are not kept whole

What is lost of the arguments of a call. Where borrowed text is expected, an argument loses its
ending `.to_string()`. That is the owned copy of a literal, but of a number it is the conversion. A
date or a time is written as the sum of its named units or from a template, and the rule that knows
all its parameters is never reached (`calendar_call_complete_iff`).
-/

namespace Oxidize.Emit

open IR (Expr)
open List Gives Calendar

variable {c : Context} {packages : Table Package} {e : Expr}

/-! ## Borrowed text -/

/-- An argument, and whether it is written with the ending that makes owned text: a literal, a
templated expression, or a conversion or a slice of anything that can be written. -/
inductive Argument (c : Context) (packages : Table Package) : Expr → Bool → Prop
  | literal (s : String) (line : IR.Line) : Argument c packages (.literal (.str s) line) true
  | templated {e : Expr} (hform : Throughout (Templated c packages) e)
    (hfits : Throughout (Fits c) e) : Argument c packages e false
  | str {x : Expr} {text : String} (hx : Gives c packages (expr x) text) (nameLine line : IR.Line) :
    Argument c packages (.call (.name "str" nameLine) [x] [] line) true
  | slice {x lower upper : Expr} {text first last : String} (hx : Gives c packages (expr x) text)
    (hlower : Gives c packages (bound lower (expr lower)) first)
    (hupper : Gives c packages (bound upper (expr upper)) last) (step : Expr)
    (sliceLine line : IR.Line) :
    Argument c packages (.subscript x (.slice lower upper step sliceLine) line) true

lemma isOwnedText_append (text : String) {tail : String}
    (h : Template.ownedSuffix.toList <:+ tail.toList) : isOwnedText (text ++ tail) = true :=
  isOwnedText_iff.2 (h.trans (toList_suffix text tail))

lemma Argument.exists_text {converted : Bool} (he : Argument c packages e converted)
    (hstr : IsOwn c "str") :
    ∃ code, Gives c packages (expr e) code ∧ isOwnedText code = converted := by
  cases he with
  | literal s line =>
    refine ⟨literalText (.str s), ?_, isOwnedText_append _ (by decide)⟩
    rw [expr]
    exact Gives.pure _
  | templated hform hfits =>
    obtain ⟨code, hgive, hspelled⟩ := exists_spelled (hform.and hfits)
    exact ⟨code, hgive, hspelled.owned⟩
  | @str x text hx nameLine line =>
    refine ⟨text ++ ".to_string()", ?_, isOwnedText_append text (by decide)⟩
    exact builtin_gives hstr rfl (exprs_gives hx (Gives.pure [])) (Gives.pure _) nameLine line
  | @slice x lower upper text first last hx hlower hupper step sliceLine line =>
    refine ⟨Emit.slice text lower upper first last, ?_, isOwnedText_append _ (by decide)⟩
    rw [expr]
    exact hx.bind (hlower.bind (hupper.bind (Gives.pure _)))

/-- An argument that is passed as borrowed text keeps all that is written for it exactly if that
does not end in a conversion. Else the conversion goes, also from a number or a part of a text. -/
theorem borrow_keeps_iff {converted : Bool} (hstr : IsOwn c "str")
    (he : Argument c packages e converted) : ∃ code, Gives c packages (expr e) code ∧
      (Template.borrow code = "&" ++ code ↔ converted = false) ∧
      (converted = true → code = Template.borrow code ++ ".to_string()") := by
  obtain ⟨code, hgive, rfl⟩ := he.exists_text hstr
  refine ⟨code, hgive, ?_⟩
  unfold Template.borrow
  rw [isOwnedText, Text.dropSuffix?]
  cases hends : Text.endsWith code Template.ownedSuffix with
  | false => exact ⟨⟨fun _ => rfl, fun _ => rfl⟩, fun h => by cases h⟩
  | true =>
    refine ⟨⟨fun hkept => ?_, fun h => by cases h⟩,
      fun _ => Text.dropSuffix?_eq_some (if_pos hends)⟩
    have hlength : (String.ofList (code.toList.take _)).toList.length =
        ("&" ++ code).toList.length :=
      congrArg (·.toList.length) hkept
    rw [String.toList_ofList, String.toList_append, length_take, length_append] at hlength
    have hone : "&".toList.length = 1 := rfl
    omega

theorem borrow_keeps_name :
    ∃ code, Gives {} [] (expr (.name "n" none)) code ∧ Template.borrow code = "&" ++ code := by
  obtain ⟨hform, hfits⟩ := throughout_name (n := "n") (by decide) none
  obtain ⟨code, hgive, hkept, -⟩ :=
    borrow_keeps_iff (c := {}) ⟨rfl, rfl, rfl, rfl⟩ (.templated hform hfits)
  exact ⟨code, hgive, hkept.2 rfl⟩

/-- The number is passed as it is, and not as text. -/
theorem startswith_drops_conversion :
    (Emitter.run {} (expr (.method (.name "s" none) "startswith"
      [.call (.name "str" none) [.name "n" none] [] none] [] none))).1 = .ok "s.starts_with(n)" := by
  rfl

/-! ## Dates and times -/

/-- The name stands for a module of the library. -/
structure IsModule (c : Context) (name : String) : Prop where
  notNative : c.nativeImports.get? name = none
  notPath : c.isPathVar name = false
  notVariable : c.typeEnv.get? name = none
  notImported : c.crateImports.get? name = none
  notClass : c.classNames.contains name = false

namespace MethodCall

variable {call : MethodCall}

/-- The text of a call: code around its arguments, each of which stands between code of its own. -/
structure Layout where
  start : String := ""
  sep : String := ""
  items : List (String × String × String) := []
  stop : String := ""

namespace Layout

def text (l : Layout) : String :=
  l.start ++ Text.join l.sep (l.items.map fun (before, arg, after) => before ++ arg ++ after) ++
    l.stop

/-- The text holds these arguments, each exactly once and in this order, and its code no
placeholder. -/
def Complete (l : Layout) (args : List String) : Prop :=
  l.items.map (·.2.1) = args ∧
    ∀ code ∈ [l.start, l.sep, l.stop] ++ l.items.map (·.1) ++ l.items.map (·.2.2),
      '\x7b' ∉ code.toList

/-- The arguments in a list. -/
def listed (start : String) (texts : List String) : Layout where
  start := start
  sep := ", "
  items := texts.map ("", ·, "")
  stop := ").unwrap()"

def sum (units : Table String) : Layout where
  sep := " + "
  items := units.map fun (unit, amount) => ("chrono::Duration::" ++ unit ++ "(", amount, ")")

/-- The sum of the named units. Without any the code of the library is written. -/
def span (named : Table String) : Layout :=
  match named.filter (Calendar.spanUnits.contains ·.1) with
  | [] =>
    { start := "chrono::Duration::days({days}) + chrono::Duration::seconds({seconds}) + " ++
        "chrono::Duration::microseconds({microseconds})" }
  | units => sum units

def moment : Layout where
  start := "chrono::NaiveDate::from_ymd_opt({year}, {month}, {day}).unwrap()" ++
    ".and_hms_micro_opt({hour}, {minute}, {second}, {microsecond}).unwrap()"

/-- How a call of the calendar is written. -/
def ofCalendar (func : String) (texts : List String) (named : Table String) : Layout :=
  if func = "timedelta" then span named
  else if func = "date" then listed "chrono::NaiveDate::from_ymd_opt(" texts
  else if func = "time" then listed "chrono::NaiveTime::from_hms_micro_opt(" texts
  else moment

lemma text_sum (units : Table String) :
    (sum units).text = Text.join " + " (units.map fun arg => spanOf arg.1 arg.2) := by
  rw [text, sum, map_map, String.empty_append, String.append_empty]
  rfl

end Layout

lemma fillCall_listed {start : String}
    (hstart : start ∈ ["chrono::NaiveDate::from_ymd_opt(", "chrono::NaiveTime::from_hms_micro_opt("])
    (texts : List String) :
    Template.fillCall (start ++ "{args}).unwrap()") texts = (Layout.listed start texts).text := by
  simp only [mem_cons, not_mem_nil, or_false] at hstart
  rw [← String.toList_inj]
  rcases hstart with rfl | rfl <;>
  · rw [Template.fillCall, if_pos (by rfl), Template.fill, Text.replaceAll, String.toList_ofList]
    simp [Layout.text, Layout.listed, Text.commas, Function.comp_def]
    rfl

set_option maxRecDepth 4000 in
lemma run_libraryCall_calendar (e : Emitter) (texts : List String) {func : String}
    (hfunc : func ∈ ["date", "time", "datetime", "timedelta"]) :
    (e.run (libraryCall "datetime" func texts)).1 =
      .ok (some (Layout.ofCalendar func texts []).text) := by
  let written (text : String) : Except EmitError (Option String) := .ok (some text)
  simp only [mem_cons, not_mem_nil, or_false] at hfunc
  rcases hfunc with rfl | rfl | rfl | rfl
  · exact congrArg written (fillCall_listed (.head _) texts)
  · exact congrArg written (fillCall_listed (.tail _ (.head _)) texts)
  · rfl
  · rfl

lemma ofImportedName_gives {name : String} (hmodule : IsModule c name)
    (hobj : call.obj.name? = some name) (hname : hasCombinators name = false)
    (hspan : Gives c packages (namedSpan name call.method call.kwargs) none) :
    Gives c packages (call.ofImportedName name) none := by
  have hcall : Gives c packages (nativeCall name (some call.method) call.texts) none :=
    (nativeMapping?_gives hmodule.notNative _).bind (pure none)
  have hpath : Gives c packages (call.ofPathVar name) none :=
    read (by rw [hmodule.notPath]; exact pure none)
  have hmethod : Gives c packages (nativeMethod? call.obj call.method) none := by
    refine read ?_
    rw [Facts.nativeMethod?, hobj, Option.bind_some, hmodule.notVariable]
    exact pure none
  have hnative : Gives c packages call.ofNative none := hmethod.bind (pure none)
  have hpackage : Gives c packages (call.ofPackageName name) none :=
    read (by rw [hmodule.notImported]; exact pure none)
  refine hspan.bind (hcall.bind (hpath.bind (hnative.bind (hpackage.bind ?_))))
  rw [hname]
  refine (pure none).bind (read ?_)
  rw [hmodule.notClass]
  exact pure none

lemma run_calendar_call {e : Emitter} {line : IR.Line} (span : Option String)
    (hmodule : IsModule e.ctx "datetime") (hobj : call.obj = .name "datetime" line)
    (hfunc : call.method ∈ ["date", "time", "datetime", "timedelta"])
    (hspan : Gives e.ctx e.resolver.registry.packages
      (namedSpan "datetime" call.method call.kwargs) span) :
    (e.run call.emit).1 = .ok (span.getD (Layout.ofCalendar call.method call.texts []).text) := by
  suffices hname : (e.run call.ofName).1 = .ok (some (span.getD _)) by
    rw [emit, Emitter.run_bind_ok (Prod.ext hname rfl)]
    rfl
  rw [ofName, hobj]
  dsimp only
  cases span with
  | some text =>
    have himported : Gives e.ctx _ (call.ofImportedName "datetime") (some text) :=
      hspan.bind (pure _)
    obtain ⟨e', hrun, -⟩ := himported e rfl rfl
    rw [Emitter.run_bind_ok hrun]
    rfl
  | none =>
    have himported := ofImportedName_gives hmodule (by rw [hobj]; rfl) rfl hspan
    obtain ⟨e', hrun, -⟩ := himported e rfl rfl
    have hlibrary := run_libraryCall_calendar e' call.texts hfunc
    rw [Emitter.run_bind_ok hrun]
    dsimp only
    rw [ofModuleName, Emitter.run_bind_ok (Prod.ext hlibrary rfl), Option.getD_none]
    rfl

lemma units_give {kwargs : List (String × Emit String)} {value : String → String}
    (h : ∀ kw ∈ kwargs, Gives c packages kw.2 (value kw.1)) :
    Gives c packages (kwargs.mapM fun (unit, x) => return spanOf unit (← x))
      (kwargs.map fun kw => spanOf kw.1 (value kw.1)) := by
  induction kwargs with
  | nil => exact Gives.pure []
  | cons kw kwargs ih =>
    rw [mapM_cons]
    have hrest := ih fun kw hkw => h kw (.tail _ hkw)
    exact ((h kw (.head _)).bind (Gives.pure (spanOf kw.1 (value kw.1)))).bind
      (hrest.bind (Gives.pure _))

lemma namedSpan_gives {kwargs : List (String × Emit String)} {value : String → String}
    (h : ∀ kw ∈ kwargs, Gives c packages kw.2 (value kw.1)) :
    ∃ span, Gives c packages (namedSpan "datetime" "timedelta" kwargs) span ∧
      span.getD (Layout.span []).text =
        (Layout.span (kwargs.map fun kw => (kw.1, value kw.1))).text := by
  have hunits := units_give fun kw (hkw : kw ∈ kwargs.filter (spanUnits.contains ·.1)) =>
    h kw (mem_of_mem_filter hkw)
  refine ⟨_, hunits.bind (pure _), ?_⟩
  simp only [Layout.span, filter_map, Function.comp_def, filter_nil]
  cases kwargs.filter (spanUnits.contains ·.1) with
  | nil => simp
  | cons kw units => simp [Layout.text_sum, Function.comp_def]

lemma listed_complete_iff {start : String} (h : '\x7b' ∉ start.toList) (texts named : List String) :
    (Layout.listed start texts).Complete (texts ++ named) ↔ named = [] := by
  have hitems : (Layout.listed start texts).items.map (·.2.1) = texts := by
    simp [Layout.listed, Function.comp_def]
  rw [Layout.Complete, hitems, self_eq_append_right]
  refine and_iff_left ?_
  simp only [Layout.listed, forall_mem_append, forall_mem_cons, forall_mem_map]
  exact ⟨⟨⟨h, by decide, by decide, forall_mem_nil _⟩, fun _ _ => by decide⟩, fun _ _ => by decide⟩

lemma span_complete_iff (texts : List String) (named : Table String) :
    (Layout.span named).Complete (texts ++ named.map Prod.snd) ↔
      texts = [] ∧ named ≠ [] ∧ ∀ arg ∈ named, arg.1 ∈ spanUnits := by
  have hcode : ∀ unit ∈ spanUnits, '\x7b' ∉ ("chrono::Duration::" ++ unit ++ "(").toList := by
    decide
  have hself : named.filter (spanUnits.contains ·.1) = named ↔
      ∀ arg ∈ named, arg.1 ∈ spanUnits := by
    simp [filter_eq_self]
  have hmem : ∀ arg ∈ named.filter (spanUnits.contains ·.1), arg.1 ∈ spanUnits := by
    simp
  have hsub := filter_sublist (l := named) (p := (spanUnits.contains ·.1))
  rw [← hself, Layout.span, Layout.Complete]
  generalize named.filter (spanUnits.contains ·.1) = units at hmem hsub ⊢
  cases units with
  | nil =>
    simp
  | cons unit units =>
    constructor
    · rintro ⟨heq, -⟩
      have hlength := congrArg length heq
      have hle := hsub.length_le
      simp only [Layout.sum, length_map, length_append] at hlength
      obtain rfl : texts = [] := eq_nil_of_length_eq_zero (by omega)
      obtain rfl := hsub.eq_of_length (by simpa using hlength)
      exact ⟨rfl, cons_ne_nil _ _, rfl⟩
    · rintro ⟨rfl, -, rfl⟩
      refine ⟨by simp [Layout.sum], ?_⟩
      simp only [Layout.sum, forall_mem_append, forall_mem_map]
      exact ⟨⟨by decide, fun arg harg => hcode _ (hmem arg harg)⟩, fun _ _ => by decide⟩

/-- A call of the calendar is written in this layout. It holds all arguments, each exactly once in
its place, and no placeholder exactly for a date or a time without named arguments, and for a span
with arguments that are all named by a unit. -/
theorem calendar_call_complete_iff {e : Emitter} {line : IR.Line} {value : String → String}
    (hmodule : IsModule e.ctx "datetime") (hobj : call.obj = .name "datetime" line)
    (hfunc : call.method ∈ ["date", "time", "datetime", "timedelta"])
    (hvalue : ∀ kw ∈ call.kwargs, Gives e.ctx e.resolver.registry.packages kw.2 (value kw.1)) :
    let named := call.kwargs.map fun kw => (kw.1, value kw.1)
    let layout := Layout.ofCalendar call.method call.texts named
    (e.run call.emit).1 = .ok layout.text ∧
      (layout.Complete (call.texts ++ named.map Prod.snd) ↔
        call.method ∈ ["date", "time"] ∧ call.kwargs = [] ∨
        call.method = "timedelta" ∧ call.texts = [] ∧ call.kwargs ≠ [] ∧
          ∀ kw ∈ call.kwargs, kw.1 ∈ spanUnits) := by
  have hrun {span} := run_calendar_call span hmodule hobj hfunc
  obtain ⟨obj, emitObj, method, args, texts, kwargs⟩ := call
  simp only [mem_cons, not_mem_nil, or_false] at hfunc
  rcases hfunc with rfl | rfl | rfl | rfl
  · refine ⟨hrun (pure none), (listed_complete_iff (by decide) texts _).trans ?_⟩
    simp
  · refine ⟨hrun (pure none), (listed_complete_iff (by decide) texts _).trans ?_⟩
    simp
  · refine ⟨hrun (pure none), iff_of_false (fun h => ?_) (by simp)⟩
    exact h.2 Layout.moment.start (.head _) (by decide +kernel)
  · obtain ⟨span, hspan, htext⟩ := namedSpan_gives hvalue
    refine ⟨(hrun hspan).trans (congrArg Except.ok htext), (span_complete_iff texts _).trans ?_⟩
    rw [forall_mem_map]
    simp

theorem calendar_call_complete_hours :
    (Emitter.run {} (emit ⟨.name "datetime" none, pure "", "timedelta", [], [],
        [("hours", pure "2"), ("minutes", pure "30")]⟩)).1 =
      .ok "chrono::Duration::hours(2) + chrono::Duration::minutes(30)" ∧
    (Layout.ofCalendar "timedelta" [] [("hours", "2"), ("minutes", "30")]).Complete ["2", "30"] := by
  have hcall := @calendar_call_complete_iff ⟨.name "datetime" none, pure "", "timedelta", [], [],
    [("hours", pure "2"), ("minutes", pure "30")]⟩ {} none
    (fun unit => if unit = "hours" then "2" else "30")
    ⟨rfl, rfl, rfl, rfl, rfl⟩ rfl (by decide) (by simpa using ⟨pure _, pure _⟩)
  exact ⟨hcall.1, hcall.2.2 (.inr (by simp; decide))⟩

/-- A number of days before the named hours is dropped. -/
theorem timedelta_drops_days :
    (Emitter.run {} (expr (.method (.name "datetime" none) "timedelta" [.literal (.int 1) none]
      [("hours", .literal (.int 2) none)] none))).1 = .ok "chrono::Duration::hours(2)" := by
  rfl

end MethodCall

end Oxidize.Emit
