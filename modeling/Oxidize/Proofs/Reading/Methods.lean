import Oxidize.Proofs.Reading.Calls

/-!
# What a written method call keeps

A method call is written by the first rule that applies, as a function call is. Its receiver is kept
by most rules: it is dropped where it only says which function is meant, as the name of a module or
of a type does. `MethodCall.kept` says which operands the rule writes that applies, and whatever
stands in one of them stands in the written call (`MethodCall.emit_sound`).
-/

namespace Oxidize

open IR (Expr)
open Text Template

variable {code : String} {m : Mapping}

lemma Table.has_of_get? {α : Type} {t : Table α} {key : String} {value : α}
    (h : t.get? key = some value) : t.has key = true := by
  unfold has
  unfold get? at h
  rw [h]
  rfl

namespace Calendar

/-- What is kept of parts of which `shows` says whether they are written, if the arguments with
these names are given. -/
def partsKept (defaults : Table String) (names : List String) (shows : String → Bool) : Kept where
  args i := (defaults.keys[i]?).any fun key => shows key && !names.contains key
  named key := shows key && names.count key == 1

/-- What a call of a constructor keeps, if there are so many arguments and arguments with these
names. -/
def constructKept (m : Mapping) (args : Nat) (names : List String) : Kept :=
  let template := m.template.text
  let listed : Kept := { args := fun _ => shows template "args" }
  let ofCalendar := m.module == .str "datetime"
  if m.func == .str "date" && ofCalendar then if args == 3 then listed else {}
  else if m.func == .str "time" && ofCalendar then listed
  else if m.func == .str "datetime" && Template.has template "year" then
    partsKept momentDefaults names fun key =>
      names.all Text.isIdentifier && Text.isIdentifier key && shows template key
  else if m.func == .str "timedelta" then partsKept spanDefaults names spanUnits.contains
  else listed

end Calendar

def Operands.obj (e : Emitter) (o : Operands) : String :=
  (e.given o.receiver).getD ""

/-- What a call of a method keeps by a template for the receiver and all arguments. -/
def Mapping.methodKept (m : Mapping) : Kept where
  receiver := shows m.template.text "self"
  args _ := shows m.template.text "args"

/-- What a call of a method keeps by a template which is `filled` once the receiver is written, for
arguments that are passed as they are. -/
def Mapping.filledKept (m : Mapping) (filled : String) : Kept where
  receiver := shows m.template.text "self"
  args := showsArg filled

namespace Emit

def packageMethodKept (e : Emitter) (o : Operands) (method : String) (m : Mapping) : Kept :=
  let code := fill m.template.text "self" (o.obj e)
  let typed := (e.given (injectType code method)).getD ""
  { receiver := shows m.template.text "self"
    args := fun i => showsArg typed i && m.passes i }

/-! ## Methods by their mappings -/

variable {e : Emitter} {x : String} (hx : IsVariable x) {o : Operands}

variable {method : String}

lemma isWord_of_mem_typedMethods (h : method ∈ typedMethods) : IsWord method.toList := by
  have hidents : ∀ method ∈ typedMethods, isIdentifier method = true := by decide
  exact isWord_of_isIdentifier (hidents method h)

include hx

lemma mappedMethod_sound {obj : String} (hobj : Yields e o.receiver obj)
    (h : Yields e (mappedMethod m obj o.texts) code) : Sound e x o m.methodKept code := by
  unfold mappedMethod at h
  obtain ⟨template, htemplate, h⟩ := h.bind (templateOf_plain .free)
  obtain ⟨_, -, h⟩ := h.bind (needImports_plain .free)
  unfold Mapping.methodKept
  rw [Yields.templateOf htemplate]
  refine .ofReceiver hobj (fun hkept hstands => ?_) fun i text hkept htext hstands => ?_
  · have hself := stands_fill isHoleName_self (hasPlace_of_shows hkept)
      hstands
    exact stands_handleResult h (Template.stands_of_template hx isHoleName_args hself)
  · have hplace : Template.HasPlace "args" (fill template "self" obj) :=
      Template.hasPlace_fill isHoleName_self isHoleName_args (by decide) (hasPlace_of_shows hkept)
    have hcommas := hstands.commas (List.mem_of_getElem? htext)
    exact stands_handleResult h (stands_fill isHoleName_args hplace hcommas)

/-- The type is written after the name of a method, and a variable has not the name of a method that
needs one. -/
lemma stands_typed (inner : String) (hmethod : method ∈ typedMethods) (h : Stands x code) :
    Stands x (replaceAll code s!".{method}(" s!".{method}::<{inner}>(") := by
  have hframed : IsFramed ['.'] method.toList ['('] :=
    ⟨isWord_of_mem_typedMethods hmethod, by simp, by decide, by simp, by decide⟩
  have hne : x.toList ≠ method.toList := fun heq =>
    hx.kept (String.toList_injective heq ▸ List.mem_append_right _ hmethod)
  have hold : (s!".{method}(").toList = ['.'] ++ (method.toList ++ ['(']) := by
    show ("." ++ method ++ "(").toList = _
    simp
  have hnew : (s!".{method}::<{inner}>(").toList =
      '.' :: (method.toList ++ "::<".toList ++ inner.toList ++ ['>']) ++ ['('] := by
    show ("." ++ method ++ "::<" ++ inner ++ ">(").toList = _
    simp
  unfold Stands replaceAll
  rw [String.toList_ofList, hold, hnew]
  refine hframed.standsIn_replaceChars hx.isWord (fun heq => absurd heq hne) ?_ ?_ h
  · intro _ _ _
    exact ⟨by simp, opens_concat.2 (by decide)⟩
  · intro _ _ _
    exact ⟨by simp, closes_cons.2 (by decide)⟩

lemma stands_injectType {typed : String} (h : Yields e (injectType code method) typed)
    (hcode : Stands x code) : Stands x typed := by
  unfold injectType at h
  split at h
  · obtain rfl := h.eq_of_pure
    exact hcode
  rename_i hmethod
  have hmethod : method ∈ typedMethods := by simpa using hmethod
  have h := h.context fun _ => rfl
  have htyped (inner : String) := stands_typed hx inner hmethod hcode
  obtain ⟨_, -, h⟩ := h.bind (.note _ _ _)
  rw [h.eq_of_pure]
  refine iteInduction (fun _ => ?_) fun _ => htyped _
  exact ((htyped _).seal ".cloned()" rfl).stands

omit hx in
lemma stands_convertInt {converted : String} {returned : Value}
    (h : Yields e (convertInt code returned) converted) (hcode : Stands x code) :
    Stands x converted := by
  unfold convertInt at h
  have h := h.context fun _ => rfl
  split at h
  · obtain ⟨source, -, h⟩ := h.bind .orValueFault_free
    split at h
    · obtain ⟨_, -, rfl⟩ := h.bind_pure (.note _ _ _)
      exact (hcode.seal ".into()" rfl).stands
    · obtain rfl := h.eq_of_pure
      exact hcode
  · obtain rfl := h.eq_of_pure
    exact hcode

lemma packageMethod_sound (hreceiver : Mild .free o.receiver)
    (h : Yields e (packageMethod m method o.receiver o.texts) code) :
    Sound e x o (packageMethodKept e o method m) code := by
  unfold packageMethod at h
  obtain ⟨obj, hobj, h⟩ := h.bind hreceiver
  obtain ⟨passed, hpassed, h⟩ := h.bind (passArgs_plain .free o.texts)
  obtain ⟨template, htemplate, h⟩ := h.bind (templateOf_plain .free)
  obtain ⟨typed, htyped, h⟩ := h.bind (injectType_plain _ method)
  obtain ⟨_, -, h⟩ := h.bind (needImports_plain .free)
  obtain ⟨handled, hhandled, h⟩ := h.bind (handleResult_plain _ _)
  unfold packageMethodKept Operands.obj
  dsimp only
  rw [hobj.given_eq hreceiver, Yields.templateOf htemplate, Option.getD_some,
    htyped.given_eq (injectType_plain _ method), Option.getD_some]
  refine .ofReceiver hobj (fun hkept hstands => ?_) fun i text hkept htext hstands => ?_
  · have hself := stands_fill isHoleName_self (hasPlace_of_shows hkept)
      hstands
    have hargs : Stands x (Template.fillArgs typed passed) :=
      Template.stands_fillArgs_of_template hx (stands_injectType hx htyped hself)
    exact stands_convertInt h (stands_handleResult hhandled hargs)
  · rw [Bool.and_eq_true] at hkept
    obtain ⟨arg, harg, hstands⟩ := exists_passArgs hx hpassed htext hstands hkept.2
    have hargs := stands_fillArgs hx harg hkept.1 hstands
    exact stands_convertInt h (stands_handleResult hhandled hargs)

namespace MethodCall

def operands (c : MethodCall) : Operands :=
  ⟨c.emitObj, c.texts, c.kwargs⟩

abbrev Light (c : MethodCall) : Prop :=
  c.Quietly .free

/-! ## Methods of names -/

section Names

variable (e : Emitter) (c : MethodCall)

def pathVarKept (name : String) : Option Kept :=
  (if e.ctx.isPathVar name then Library.pathMethods.get? s!"Path.{c.method}" else none).map
    Mapping.methodKept

def nativeValueKept : Option Kept :=
  (e.found (nativeMethod? c.obj c.method)).map Mapping.methodKept

def packageNameKept (name : String) : Option Kept :=
  match e.ctx.crateImports.get? name with
  | some crate =>
    let type := e.ctx.packageName name
    packageKept e s!"{crate}.{type}.{c.method}" <|>
      (e.found (lookup (Registry.method? type c.method (some crate)))).map fun m =>
        { args := fun i => shows m.template.text s!"arg{i}" }
  | none => none

/-- Is the function that wraps an error written as the second argument is? -/
def keepsWrapper : Bool :=
  match c.args with
  | _ :: .name wrapper _ :: _ => !e.ctx.crateImports.has wrapper
  | _ => true

def combinatorKept : Option Kept :=
  match c.texts with
  | [] => none
  | _ :: others =>
    if ["unwrap", "unwrap_err", "is_ok", "is_err", "is_some", "is_none"].contains c.method then
      some (.firstArgs 1)
    else if others.isEmpty then none
    else if ["unwrap_or", "expect", "expect_err", "unwrap_or_else", "map", "map_err", "and_then",
        "or_else"].contains c.method then some (.firstArgs 2)
    else if c.method == "map_error" then
      some { args := fun i => i == 0 || i == 1 && c.keepsWrapper e }
    else none

/-- What a method of a name keeps by the mappings of imported names, native values and paths. -/
def importedNameKept (name : String) : Option Kept :=
  spanKept name c.method c.kwargs <|> nativeKept e name (some c.method) <|> c.pathVarKept e name <|>
    c.nativeValueKept e <|> c.packageNameKept e name <|>
    (if hasCombinators name then c.combinatorKept e else none) <|>
    if e.ctx.classNames.contains name then some .allArgs else none

/-- What a method of a name keeps that makes a date, a time or a span. -/
def calendarNameKept (name : String) : Option Kept :=
  (Library.calendar? s!"{name}.{c.method}").map fun m =>
    Calendar.constructKept m c.texts.length (c.kwargs.map Prod.fst)

def variableKept (type : String) : Option Kept :=
  let name := Context.lastPart type
  match Library.calendarMethod? s!"{name}.{c.method}" with
  | some m => some (m.filledKept (fill m.template.text "self" (c.operands.obj e)))
  | none =>
    (e.found (lookup (Registry.method? (e.ctx.packageName name) c.method
      (e.ctx.crateOfType? name)))).map (packageMethodKept e c.operands c.method)

/-- What a method of a name keeps by the module it names or the type of the variable. -/
def moduleNameKept (name : String) : Option Kept :=
  libraryKept e name c.method <|> c.calendarNameKept name <|>
    (e.ctx.typeEnv.get? name).bind (c.variableKept e)

def nameKept : Option Kept :=
  match c.obj with
  | .name name _ => c.importedNameKept e name <|> c.moduleNameKept e name
  | _ => none

end Names

variable {c : MethodCall}

lemma mappedMethod_tracks (hc : c.Light) (found : Option Mapping) :
    Tracks e x c.operands (found.map Mapping.methodKept)
      (match found with
      | some m => do return some (← mappedMethod m (← c.emitObj) c.texts)
      | none => return none) := by
  cases found with
  | none => exact .pure_none
  | some m =>
    intro r hr
    obtain ⟨obj, hobj, hr⟩ := hr.bind hc.obj
    obtain ⟨code, hcode, rfl⟩ := hr.bind_pure (mappedMethod_plain .free obj c.texts)
    exact .some (mappedMethod_sound hx hobj hcode)

lemma ofPathVar_tracks (hc : c.Light) (name : String) :
    Tracks e x c.operands (c.pathVarKept e name) (c.ofPathVar name) := by
  unfold ofPathVar
  refine .context (fun _ => rfl) ?_
  exact mappedMethod_tracks hx hc _

lemma ofNative_tracks (hc : c.Light) : Tracks e x c.operands (c.nativeValueKept e) c.ofNative := by
  intro r hr
  unfold ofNative at hr
  obtain ⟨found, hfound, hr⟩ := hr.bind (Acts.nativeMethod? c.obj c.method)
  unfold nativeValueKept
  rw [hfound.found_eq (Acts.nativeMethod? c.obj c.method)]
  exact mappedMethod_tracks hx hc found r hr

lemma ofConstant_sound (h : Yields e (c.ofConstant m) code) :
    Sound e x c.operands { args := fun i => shows m.template.text s!"arg{i}" } code := by
  unfold ofConstant at h
  obtain ⟨template, htemplate, h⟩ := h.bind (templateOf_plain .free)
  obtain ⟨_, -, h⟩ := h.bind (needImports_plain .free)
  rw [Yields.templateOf htemplate]
  refine .ofArgs fun i text hkept htext hstands => ?_
  exact stands_handleResult h (Template.stands_fillNumbered hx htext hkept hstands)

lemma ofPackageName_tracks (name : String) :
    Tracks e x c.operands (c.packageNameKept e name) (c.ofPackageName name) := by
  unfold ofPackageName
  refine .context (fun _ => rfl) ?_
  unfold packageNameKept
  cases e.ctx.crateImports.get? name with
  | none => exact .pure_none
  | some crate =>
    refine .context (fun _ => rfl) ?_
    refine .orElse (packageCall_plain _ c.texts) (packageCall_tracks hx _) ?_ fun _ => rfl
    exact .mapping (.lookup (.method? _ _ fun _ _ => trivial)) (fun _ => ofConstant_plain .free)
      (fun _ _ h => ofConstant_sound hx h) (fun _ => rfl) rfl

omit hx in
lemma errorWrapper_eq {written wrapper : String} (h : Yields e (c.errorWrapper written) wrapper)
    (hkept : c.keepsWrapper e = true) : wrapper = written := by
  unfold errorWrapper at h
  unfold keepsWrapper at hkept
  split at h
  · rename_i args name line rest hargs
    rw [hargs] at hkept
    have h := h.context fun _ => rfl
    cases hcrate : e.ctx.crateImports.get? name with
    | none =>
      rw [hcrate] at h
      exact h.eq_of_pure
    | some crate =>
      simp only [Table.has_of_get? hcrate] at hkept
      cases hkept
  · exact h.eq_of_pure

lemma combinator_tracks : Tracks e x c.operands (c.combinatorKept e) c.combinator := by
  unfold combinator combinatorKept
  rcases htexts : c.texts with _ | ⟨value, _ | ⟨arg, others⟩⟩
  · exact .pure_none
  · dsimp only
    split
    · refine .of_pure (.some (.ofHead htexts fun hstands => ?_))
      exact (((hstands.seal "." rfl).more _).more _).stands
    · exact .pure_none
  dsimp only
  split
  · refine .of_pure (.some (.ofHead htexts fun hstands => ?_))
    exact (((hstands.seal "." rfl).more _).more _).stands
  rw [if_neg (by simp)]
  have hpair {other : String} (harg : Stands x arg → Stands x other) :
      Sound e x c.operands (.firstArgs 2) s!"{value}.{c.method}({other})" := by
    refine .ofFirstTwo htexts (fun hstands => ?_) fun hstands => ?_
    · exact (((((hstands.seal "." rfl).more _).more _).more _).more _).stands
    · exact (((harg hstands).after _ "(" rfl).seal ")" rfl).stands
  -- The method is one of those with two operands, or `map_error`, or no combinator.
  split
  · rename_i hmethod
    split
    · exact .of_pure (.some (hpair id))
    split
    · exact .of_pure (.some (hpair fun h => h.borrow hx))
    split
    · exact .of_pure (.some (hpair id))
    · simp_all
  rename_i hmethod
  have hdefault : ¬ (c.method == "unwrap_or") = true := by simp_all
  have hmessage : ¬ ["expect", "expect_err"].contains c.method = true := by simp_all
  have hclosure : ¬ ["unwrap_or_else", "map", "map_err", "and_then", "or_else"].contains c.method =
    true := by simp_all
  rw [if_neg hdefault, if_neg hmessage, if_neg hclosure]
  split
  · intro r hr
    obtain ⟨wrapper, hwrapper, rfl⟩ := hr.bind_pure (errorWrapper_plain arg)
    refine .some (.ofArgs fun i text hkept htext hstands => ?_)
    have hkept : i = 0 ∨ i = 1 ∧ c.keepsWrapper e = true := by simpa using hkept
    rcases hkept with rfl | ⟨rfl, hkept⟩
    · obtain rfl : value = text := by simpa [operands, htexts] using htext
      have hinner := hstands.trimEnd hx (p := (· == '?')) (by simp; decide)
      exact (((hinner.seal ".map_err(|e| " rfl).more _).more _).stands
    · obtain rfl : arg = text := by simpa [operands, htexts] using htext
      rw [errorWrapper_eq hwrapper hkept]
      exact ((hstands.after _ ".map_err(|e| " rfl).seal "(e))?" rfl).stands
  · exact .pure_none

lemma ofImportedName_tracks (hc : c.Light) (name : String) :
    Tracks e x c.operands (c.importedNameKept e name) (c.ofImportedName name) := by
  unfold ofImportedName importedNameKept
  refine .orElse (namedSpan_plain name c.method hc.kwargs)
    (namedSpan_tracks name c.method hc.kwargs) ?_ fun _ => rfl
  refine .orElse (nativeCall_plain name (some c.method) c.texts)
    (nativeCall_tracks hx _ _) ?_ fun _ => rfl
  refine .orElse (ofPathVar_plain hc name) (ofPathVar_tracks hx hc name) ?_ fun _ => rfl
  refine .orElse (ofNative_plain hc) (ofNative_tracks hx hc) ?_ fun _ => rfl
  refine .orElse (ofPackageName_plain name) (ofPackageName_tracks hx name) ?_ fun _ => rfl
  refine .orElse ?_ ?_ ?_ fun _ => rfl
  · split
    · exact combinator_plain
    · exact .done
  · split
    · exact combinator_tracks hx
    · exact .pure_none
  · refine .context (fun _ => rfl) ?_
    split
    · refine .of_pure (.some (.ofAll fun text hmem hstands => ?_))
      exact (((hstands.commas hmem).after _ "(" rfl).seal ")" rfl).stands
    · exact .pure_none

lemma ofCalendar_sound (hc : c.Light) (h : Yields e (c.ofCalendar m) code) : Sound e x c.operands
      (m.filledKept (fill m.template.text "self" (c.operands.obj e))) code := by
  unfold ofCalendar at h
  obtain ⟨obj, hobj, h⟩ := h.bind hc.obj
  obtain ⟨template, htemplate, h⟩ := h.bind (templateOf_plain .free)
  obtain ⟨_, -, rfl⟩ := h.bind_pure (needImports_plain .free)
  have hgiven : c.operands.obj e = obj := by
    unfold Operands.obj
    rw [show e.given c.operands.receiver = some obj from hobj.given_eq hc.obj, Option.getD_some]
  unfold Mapping.filledKept
  rw [hgiven, Yields.templateOf htemplate]
  refine .ofReceiver hobj (fun hkept hstands => ?_) fun i text hkept htext hstands => ?_
  · have hself := stands_fill isHoleName_self (hasPlace_of_shows hkept)
      hstands
    exact Template.stands_fillArgs_of_template hx hself
  · exact stands_fillArgs hx htext hkept hstands

lemma packageMethod_tracks (hc : c.Light) {Q : Option Mapping → Prop}
    {search : Emit (Option Mapping)} (hsearch : Plain .light .free Q search) :
    Tracks e x c.operands ((e.found search).map (packageMethodKept e c.operands c.method)) (do
        match ← search with
        | some m => return some (← packageMethod m c.method c.emitObj c.texts)
        | none => return none) := by
  refine .mapping hsearch (fun _ => packageMethod_plain .free c.method hc.obj c.texts) ?_
    (fun _ => rfl) rfl
  intro m code h
  exact packageMethod_sound hx hc.obj h

lemma ofVariable_tracks (hc : c.Light) (type : String) :
    Tracks e x c.operands (c.variableKept e type) (c.ofVariable type) := by
  unfold ofVariable variableKept
  dsimp only
  cases Library.calendarMethod? s!"{Context.lastPart type}.{c.method}" with
  | some m =>
    intro r hr
    obtain ⟨code, hcode, rfl⟩ := hr.bind_pure (ofCalendar_plain hc .free)
    exact .some (ofCalendar_sound hx hc hcode)
  | none =>
    refine .context (fun _ => rfl) ?_
    exact packageMethod_tracks hx hc (.lookup (.method? _ _ fun _ _ => trivial))

lemma ofModuleName_tracks (hc : c.Light) (name : String) :
    Tracks e x c.operands (c.moduleNameKept e name) (c.ofModuleName name) := by
  unfold ofModuleName moduleNameKept
  refine .orElse_of_none (libraryCall_plain name c.method c.texts)
    (libraryCall_tracks hx _ _) (fun hnone => ?_) fun _ => rfl
  refine .orElse (ofCalendarName_plain hc name) ?_ ?_ fun _ => rfl
  · unfold ofCalendarName calendarNameKept
    rw [calendar?_eq_none hnone]
    exact .pure_none
  refine .context (fun _ => rfl) ?_
  cases e.ctx.typeEnv.get? name with
  | none => exact .pure_none
  | some type => exact ofVariable_tracks hx hc type

lemma ofName_tracks (hc : c.Light) : Tracks e x c.operands (c.nameKept e) c.ofName := by
  unfold nameKept
  split
  · rename_i name _ hobj
    rw [ofName, hobj]
    refine .orElse (ofImportedName_plain hc name) (ofImportedName_tracks hx hc name) ?_ fun _ => rfl
    exact ofModuleName_tracks hx hc name
  · rename_i hname
    unfold ofName
    split
    · rename_i hobj
      exact absurd hobj (hname _ _)
    · exact .pure_none

/-! ## Other methods -/

section Values

variable (e : Emitter) (c : MethodCall)

/-- What a method of the type keeps that a chain of calls has reached. -/
def chainKept : Option Kept :=
  (e.found (inferType c.obj)).bind fun type =>
    if type.name == "" then none
    else (e.found (lookup (Registry.method? type.name c.method type.crate))).map
      (packageMethodKept e c.operands c.method)

/-- What a look-up of a variable of the process's environment keeps. -/
def environmentKept (module : String) : Option Kept :=
  if module == "os.environ" && c.method == "get" then
    if c.texts.isEmpty then none else some (.firstArgs 2)
  else none

def innerModuleKept : Option Kept :=
  match c.obj with
  | .attr (.name outer _) inner _ =>
    let module := s!"{outer}.{inner}"
    c.environmentKept module <|> libraryKept e module c.method <|>
      (Library.calendar? s!"{module}.{c.method}").map Mapping.callKept
  | _ => none

def laterCombinatorKept : Option Kept :=
  match c.texts with
  | _ :: _ :: others =>
    if ["map_or", "map_or_else"].contains c.method then
      if others.isEmpty then none else some (.firstArgs 3)
    else if ["ok_or", "ok_or_else"].contains c.method then some (.firstArgs 2)
    else none
  | _ => none

def boxKept : Option Kept :=
  match c.texts with
  | _ :: _ =>
    if c.method == "new" then some (.firstArgs 1)
    else if c.method == "into_inner" then some (.firstArgs 1)
    else none
  | [] => none

def typeKept : Option Kept :=
  match c.obj with
  | .name name _ =>
    if hasCombinators name then c.laterCombinatorKept
    else if name == "Box" then c.boxKept else none
  | .attr (.name base _) _ _ => if e.ctx.crateImports.has base then some .all else none
  | _ => none

def valueKept (method : String) (texts : List String) : Option Kept :=
  match method with
  | "clone" | "strip" | "upper" | "lower" | "isdigit" | "isalpha" | "isalnum" | "isspace"
  | "encode" | "keys" | "values" | "items" => some (.withReceiver 0)
  | "append" | "extend" | "pop" | "split" | "join" | "startswith" | "endswith" =>
    some (.withReceiver 1)
  | "replace" => some (.withReceiver 2)
  | "read" => if texts.isEmpty then some (.withReceiver 0) else none
  | "add" => if texts.isEmpty then none else some (.withReceiver 1)
  | "get" => if texts.isEmpty then none else some (.withReceiver 2)
  | _ => none

def kept : Kept :=
  (c.nameKept e).getD <| (c.chainKept e).getD <| (c.innerModuleKept e).getD <|
    (c.typeKept e).getD <| (valueKept c.method c.texts).getD .all

end Values

lemma ofChain_tracks (hc : c.Light) : Tracks e x c.operands (c.chainKept e) c.ofChain := by
  intro r hr
  unfold ofChain at hr
  unfold chainKept
  obtain ⟨found, hfound, hr⟩ := hr.bind (inferType_plain c.obj)
  rw [hfound.found_eq (inferType_plain c.obj)]
  cases found with
  | none => exact Tracks.pure_none r hr
  | some type =>
    rw [Option.bind_some]
    dsimp only at hr
    split at hr
    · rename_i hname
      rw [if_pos hname]
      exact Tracks.pure_none r hr
    · rename_i hname
      rw [if_neg hname]
      exact packageMethod_tracks hx hc (.lookup (.method? _ _ fun _ _ => trivial)) r hr

lemma environmentCall_rel (module : String) :
    Option.Rel (Sound e x c.operands) (c.environmentKept module) (environmentCall module c) := by
  unfold environmentCall environmentKept
  split
  · rcases htexts : c.texts with _ | ⟨key, _ | ⟨fallback, rest⟩⟩
    · exact .none
    · refine .some (.ofArgs fun i text _ htext hstands => ?_)
      obtain rfl : text = key := by
        simpa [operands, htexts] using List.mem_of_getElem? htext
      exact (((hstands.borrowed hx).behind "std::env::var(" rfl).seal ").ok()" rfl).stands
    · refine .some (.ofFirstTwo htexts (fun hstands => ?_) fun hstands => ?_)
      · have hkey := ((hstands.borrowed hx).behind "std::env::var(" rfl).seal ").unwrap_or(" rfl
        exact ((hkey.more _).more _).stands
      · exact ((hstands.after _ ").unwrap_or(" rfl).seal ")" rfl).stands
  · exact .none

lemma ofInnerModule_tracks : Tracks e x c.operands (c.innerModuleKept e) c.ofInnerModule := by
  unfold innerModuleKept
  split
  · rename_i outer _ inner _ hobj
    rw [ofInnerModule, hobj]
    dsimp only
    generalize s!"{outer}.{inner}" = module
    have hrel : Option.Rel (Sound e x c.operands) (c.environmentKept module) _ :=
      environmentCall_rel hx module
    generalize c.environmentKept module = kept at hrel ⊢
    generalize environmentCall module c = called at hrel ⊢
    cases hrel with
    | some hsound => exact .of_pure (.some hsound)
    | none =>
      show Tracks e x c.operands (libraryKept e module c.method <|>
        (Library.calendar? s!"{module}.{c.method}").map Mapping.callKept) _
      refine .orElse (libraryCall_plain module c.method c.texts)
        (libraryCall_tracks hx _ _) ?_ fun _ => rfl
      cases Library.calendar? s!"{module}.{c.method}" with
      | none => exact .pure_none
      | some m =>
        intro r hr
        obtain ⟨code, hcode, rfl⟩ := hr.bind_pure (handledCall_plain .free c.texts)
        exact .some (handledCall_sound hx hcode)
  · rename_i hattr
    unfold ofInnerModule
    split
    · rename_i hobj
      exact absurd hobj (hattr _ _ _ _)
    · exact .pure_none

omit hx in
lemma laterCombinator_rel :
    Option.Rel (Sound e x c.operands) c.laterCombinatorKept c.laterCombinator := by
  unfold laterCombinatorKept laterCombinator
  rcases htexts : c.texts with _ | ⟨value, _ | ⟨arg, others⟩⟩
  · exact .none
  · exact .none
  dsimp only
  split
  · rcases others with _ | ⟨closure, others⟩
    · exact .none
    · refine .some (.ofArgs fun i text hkept htext hstands => ?_)
      have hi : i < 3 := by simpa using hkept
      obtain rfl | rfl | rfl : i = 0 ∨ i = 1 ∨ i = 2 := by omega
      · obtain rfl : value = text := by simpa [operands, htexts] using htext
        exact (((((((hstands.seal "." rfl).more _).more _).more _).more _).more _).more _).stands
      · obtain rfl : arg = text := by simpa [operands, htexts] using htext
        exact ((((hstands.after _ "(" rfl).seal ", " rfl).more _).more _).stands
      · obtain rfl : closure = text := by simpa [operands, htexts] using htext
        exact ((hstands.after _ ", " rfl).seal ")" rfl).stands
  split
  · refine .some (.ofFirstTwo htexts (fun hstands => ?_) fun hstands => ?_)
    · exact (((((hstands.seal "." rfl).more _).more _).more _).more _).stands
    · exact ((hstands.after _ "(" rfl).seal ")" rfl).stands
  · exact .none

omit hx in
lemma boxCall_rel : Option.Rel (Sound e x c.operands) c.boxKept c.boxCall := by
  unfold boxKept boxCall
  rcases htexts : c.texts with _ | ⟨value, others⟩
  · exact .none
  dsimp only
  split
  · refine .some (.ofHead htexts fun hstands => ?_)
    exact ((hstands.behind "Box::new(" rfl).seal ")" rfl).stands
  split
  · refine .some (.ofHead htexts fun hstands => ?_)
    exact hstands.behind "*" rfl
  · exact .none

omit hx in
lemma ofType_tracks (hc : c.Light) : Tracks e x c.operands (c.typeKept e) c.ofType := by
  unfold typeKept
  split
  · rename_i name _ hobj
    rw [ofType, hobj]
    dsimp only
    split
    · exact .of_pure laterCombinator_rel
    split
    · exact .of_pure boxCall_rel
    · exact .pure_none
  · rename_i base _ _ _ hobj
    rw [ofType, hobj]
    refine .context (fun _ => rfl) ?_
    split
    · intro r hr
      obtain ⟨obj, hobj, rfl⟩ := hr.bind_pure hc.obj
      exact .some (.ofCall hobj rfl fun hstands => ((hstands.seal "::" rfl).more _).more _)
    · exact .pure_none
  · rename_i hname hattr
    unfold ofType
    split
    · rename_i hobj
      exact absurd hobj (hname _ _)
    · rename_i hobj
      exact absurd hobj (hattr _ _ _ _)
    · exact .pure_none

section Receiver

variable {obj : String} (hobj : Yields e c.emitObj obj)
include hobj

omit hx in
/-- A rule that writes the receiver and some of the first arguments. -/
lemma receiver_sound {n : Nat} (hreceiver : Stands x obj → Stands x code)
    (hargs : ∀ i text, i < n → c.texts[i]? = some text → Stands x text → Stands x code) :
    Sound e x c.operands (.withReceiver n) code := by
  refine .ofReceiver hobj (fun _ => hreceiver) fun i text hkept htext => ?_
  have hi : i < n := by simpa using hkept
  exact hargs i text hi htext

omit hx in
lemma receiver_tracks (tail : String) (htail : isClosing tail = true) :
    Tracks e x c.operands (some (.withReceiver 0)) (pure (some (obj ++ tail))) := by
  refine .of_pure (.some (receiver_sound hobj (fun hstands => ?_) fun i text hi => ?_))
  · exact (hstands.seal tail htail).stands
  · omega

omit hx in
/-- The first argument is written after the receiver. -/
lemma argument_sound {arg : String} (middle tail : String) (write : String → String)
    (harg : c.texts[0]? = some arg) (hwrite : Stands x arg → Stands x (write arg))
    (hmiddle : (isOpening middle && isClosing middle) = true)
    (htail : isClosing tail = true) :
    Sound e x c.operands (.withReceiver 1) (obj ++ middle ++ write arg ++ tail) := by
  refine receiver_sound hobj (fun hstands => ?_) fun i text hi htext hstands => ?_
  · exact stands_pair middle tail (.inl hstands) hmiddle htail
  · obtain rfl : i = 0 := by omega
    obtain rfl := Option.some.inj (harg.symm.trans htext)
    exact stands_pair middle tail (.inr (hwrite hstands)) hmiddle htail

omit hx in
/-- A rule that needs the first argument and writes it after the receiver. -/
lemma argument_tracks (middle : String) (write : String → String)
    (hwrite : ∀ text, Stands x text → Stands x (write text))
    (hmiddle : (isOpening middle && isClosing middle) = true) :
    Tracks e x c.operands (some (.withReceiver 1))
      (do return some (obj ++ middle ++ write (← argument c.texts 0) ++ ")")) := by
  intro r hr
  obtain ⟨arg, harg, rfl⟩ := hr.bind_pure (argument_plain Terms.free_elim)
  exact .some (argument_sound hobj middle ")" write (Yields.argument harg) (hwrite arg) hmiddle rfl)

omit hx in
/-- A rule that writes the first argument after the receiver, if there is one. -/
lemma optional_tracks (middle tail empty : String) (write : String → String)
    (hwrite : ∀ text, Stands x text → Stands x (write text))
    (hempty : isClosing empty = true)
    (hmiddle : (isOpening middle && isClosing middle) = true)
    (htail : isClosing tail = true) :
    Tracks e x c.operands (some (.withReceiver 1))
      (match c.texts with
      | [] => pure (some (obj ++ empty))
      | text :: _ => pure (some (obj ++ middle ++ write text ++ tail))) := by
  rcases htexts : c.texts with _ | ⟨arg, others⟩
  · refine .of_pure (.some (receiver_sound hobj (fun hstands => ?_) fun i text _ htext => ?_))
    · exact (hstands.seal empty hempty).stands
    · simp [htexts] at htext
  · have harg : c.texts[0]? = some arg := by rw [htexts, List.getElem?_cons_zero]
    exact .of_pure (.some (argument_sound hobj middle tail write harg (hwrite arg) hmiddle htail))

omit hx in
lemma read_tracks : Tracks e x c.operands (valueKept "read" c.texts)
      (if c.texts.isEmpty then do return some (← readAll obj) else return none) := by
  rcases htexts : c.texts with _ | ⟨arg, others⟩
  · intro r hr
    obtain ⟨code, hcode, rfl⟩ := hr.bind_pure (readAll_plain obj)
    unfold readAll at hcode
    have hnoted : Mild .free
        (change fun c => { c with extraImports := c.extraImports.add "std::io::Read" }) :=
      .change {}
    obtain ⟨_, -, hcode⟩ := (hcode.context fun _ => rfl).bind hnoted
    rw [hcode.eq_of_pure]
    refine .some (receiver_sound hobj (fun hstands => ?_) fun i text hi => ?_)
    · exact ((((hstands.after _ "::new(); " rfl).seal "." rfl).more _).more _).stands
    · omega
  · exact .pure_none

omit hx in
lemma get_tracks : Tracks e x c.operands (valueKept "get" c.texts)
      (match c.texts with
      | [] => return none
      | [key] => return some s!"{obj}.get(&{key}).cloned()"
      | key :: fallback :: _ =>
        return some s!"{obj}.get(&{key}).cloned().unwrap_or({fallback})") := by
  rcases htexts : c.texts with _ | ⟨key, _ | ⟨fallback, others⟩⟩
  · exact .pure_none
  · refine .of_pure (.some (receiver_sound hobj (fun hstands => ?_)
      fun i text hi htext hstands => ?_))
    · exact (((hstands.seal ".get(&" rfl).more _).more _).stands
    · obtain rfl : text = key := by
        simpa [htexts] using List.mem_of_getElem? htext
      exact ((hstands.after _ ".get(&" rfl).seal ").cloned()" rfl).stands
  · refine .of_pure (.some (receiver_sound hobj (fun hstands => ?_)
      fun i text hi htext hstands => ?_))
    · exact (((((hstands.seal ".get(&" rfl).more _).more _).more _).more _).stands
    · obtain rfl | rfl : i = 0 ∨ i = 1 := by omega
      · obtain rfl : key = text := by simpa [htexts] using htext
        have hget := hstands.after obj ".get(&" rfl
        exact (((hget.seal ").cloned().unwrap_or(" rfl).more _).more _).stands
      · obtain rfl : fallback = text := by simpa [htexts] using htext
        exact ((hstands.after _ ").cloned().unwrap_or(" rfl).seal ")" rfl).stands

lemma onValue_tracks : Tracks e x c.operands (valueKept c.method c.texts) (c.onValue obj) := by
  unfold onValue
  dsimp only
  generalize c.method = method
  split
  case h_1 =>
    refine .context (fun _ => rfl) ?_
    split
    · exact receiver_tracks hobj ".to_string()" rfl
    · exact receiver_tracks hobj ".clone()" rfl
  case h_2 => exact argument_tracks hobj ".push(" id (fun _ h => h) rfl
  case h_3 => exact argument_tracks hobj ".extend(" id (fun _ h => h) rfl
  case h_4 =>
    exact optional_tracks hobj ".remove(" " as usize)" ".pop().unwrap()" id (fun _ h => h)
      rfl rfl rfl
  case h_5 => exact receiver_tracks hobj ".trim().to_string()" rfl
  case h_6 =>
    exact optional_tracks hobj ".split(" ").collect::<Vec<_>>()"
      ".split_whitespace().collect::<Vec<_>>()" borrow (fun _ h => h.borrow hx)
      rfl rfl rfl
  case h_7 =>
    rcases htexts : c.texts with _ | ⟨items, others⟩
    · refine .of_pure (.some (receiver_sound hobj (fun hstands => ?_) fun i text _ htext => ?_))
      · exact (hstands.seal ".join()" rfl).stands
      · simp [htexts] at htext
    · refine .of_pure (.some (receiver_sound hobj (fun hstands => ?_)
        fun i text hi htext hstands => ?_))
      · exact ((hstands.after _ ".join(&" rfl).seal ")" rfl).stands
      · obtain rfl : i = 0 := by omega
        obtain rfl : items = text := by simpa [htexts] using htext
        exact (((hstands.seal ".join(&" rfl).more _).more _).stands
  case h_8 => exact receiver_tracks hobj ".to_uppercase()" rfl
  case h_9 => exact receiver_tracks hobj ".to_lowercase()" rfl
  case h_10 =>
    intro r hr
    obtain ⟨old, hold, hr⟩ := hr.bind (argument_plain Terms.free_elim)
    obtain ⟨new, hnew, rfl⟩ := hr.bind_pure (argument_plain Terms.free_elim)
    refine .some (receiver_sound hobj (fun hstands => ?_) fun i text hi htext hstands => ?_)
    · exact (((((hstands.seal ".replace(" rfl).more _).more _).more _).more _).stands
    · obtain rfl | rfl : i = 0 ∨ i = 1 := by omega
      · rw [Yields.argument hold] at htext
        cases htext
        exact (((((hstands.borrow hx).after _ ".replace(" rfl).seal ", " rfl).more _).more _).stands
      · rw [Yields.argument hnew] at htext
        cases htext
        exact (((hstands.borrow hx).after _ ", " rfl).seal ")" rfl).stands
  case h_11 =>
    exact argument_tracks hobj ".starts_with(" borrow (fun _ h => h.borrow hx) rfl
  case h_12 =>
    exact argument_tracks hobj ".ends_with(" borrow (fun _ h => h.borrow hx) rfl
  case h_13 => exact receiver_tracks hobj ".chars().all(|c| c.is_ascii_digit())" rfl
  case h_14 => exact receiver_tracks hobj ".chars().all(|c| c.is_alphabetic())" rfl
  case h_15 => exact receiver_tracks hobj ".chars().all(|c| c.is_alphanumeric())" rfl
  case h_16 => exact receiver_tracks hobj ".chars().all(|c| c.is_whitespace())" rfl
  case h_17 => exact receiver_tracks hobj ".as_bytes().to_vec()" rfl
  case h_18 => exact read_tracks hobj
  case h_19 =>
    rcases htexts : c.texts with _ | ⟨item, others⟩
    · exact .pure_none
    · have hitem : c.texts[0]? = some item := by rw [htexts, List.getElem?_cons_zero]
      exact .of_pure (.some (argument_sound hobj ".insert(" ")" id hitem id rfl rfl))
  case h_20 => exact get_tracks hobj
  case h_21 => exact receiver_tracks hobj ".keys().cloned()" rfl
  case h_22 => exact receiver_tracks hobj ".values().cloned()" rfl
  case h_23 => exact receiver_tracks hobj ".iter()" rfl
  case h_24 =>
    have hnone : valueKept method c.texts = none := by
      unfold valueKept
      split
      case h_24 => rfl
      all_goals contradiction
    rw [hnone]
    exact .pure_none

omit hx in
lemma asWritten_sound (h : Yields e (c.asWritten obj) code) : Sound e x c.operands .all code := by
  unfold asWritten at h
  dsimp only at h
  obtain ⟨passes, -, h⟩ := h.bind (passesOn_plain c.method)
  generalize (if reservedWords.contains c.method then "r#" ++ c.method else c.method) = name at h
  have hcall : Sound e x c.operands .all s!"{obj}.{name}({c.argText})" :=
    .ofCall hobj rfl fun hstands => ((hstands.seal "." rfl).more _).more _
  rw [h.eq_of_pure]
  split
  · exact fun hcovers => ((hcall hcovers).seal "?" rfl).stands
  · exact hcall

end Receiver

/-- What stands in an operand that a method call keeps stands in the written call. -/
lemma emit_sound (hc : c.Light) (h : Yields e c.emit code) :
    Sound e x c.operands (c.kept e) code := by
  unfold emit at h
  refine sound_getD (ofName_plain hc) (ofName_tracks hx hc) h (fun _ => rfl) fun code h => ?_
  refine sound_getD (ofChain_plain hc) (ofChain_tracks hx hc) h (fun _ => rfl) fun code h => ?_
  refine sound_getD ofInnerModule_plain (ofInnerModule_tracks hx) h (fun _ => rfl) fun code h => ?_
  refine sound_getD (ofType_plain hc) (ofType_tracks hc) h (fun _ => rfl) fun code h => ?_
  obtain ⟨obj, hobj, h⟩ := h.bind hc.obj
  refine sound_getD (onValue_plain hc obj) (onValue_tracks hx hobj) h (fun _ => rfl) fun code h => ?_
  exact asWritten_sound hobj h

end MethodCall

end Emit

end Oxidize
