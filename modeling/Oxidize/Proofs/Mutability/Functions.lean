import Oxidize.Proofs.Body.Functions
import Oxidize.Proofs.Faults.Modules

/-!
# Changed variables are declared as mutable, if the change is noticed

Two searches look for the variables that a function changes, and the declarations of a variable heed
them in different ways. For every function of a module that was read from a source file it is shown
that a declaration is written as mutable if a search that it heeds notices a change of its variable
(`noticed_change_declared_mut`). No search goes into the further branches of a choice, so a variable
that only such a branch assigns again is not declared as mutable (`elif_change_declared_constant`).
A parameter is, wherever the body assigns it (`params_declared`).
-/

namespace Oxidize

open IR Emitter List Emit
open Change (noted)

variable {body : List Stmt}

/-! ## Noticed changes -/

/-- The sites of a function that is taken over are marked if they heed marking. -/
lemma IR.Function.Taken.sites_obeyed {f : Function} (hf : f.Taken) (facts : Facts) :
    Outline.Obeyed (Lower.blockNames f.body) (f.sites facts) := by
  obtain ⟨statements, hbody⟩ := hf.body
  have hmarked : Lower.blockMarked (Lower.blockNames f.body) {} f.body := by
    rw [hbody]
    exact Lower.blockMarked_markMutable statements
  apply Outline.blockSites_obeyed
  intro later hlater
  cases hlater
  exact hmarked

lemma Site.Noticed.due {site : Site} (h : site.Noticed (blockChanges body)) :
    site.heeds.marking = true ∧ site.name ∈ (Lower.blockNames body).changed ∨
      site.heeds.scan = true ∧ site.name ∈ noted (blockChanges body) := by
  obtain ⟨c, hc, hname, hnoticed⟩ := h
  rw [← hname]
  rcases Bool.or_eq_true_iff.1 hnoticed with hmarking | hscan
  · obtain ⟨hheeds, hmarking⟩ := Bool.and_eq_true_iff.1 hmarking
    exact .inl ⟨hheeds, blockChanges_marks body c hc hmarking⟩
  · obtain ⟨hheeds, hscan⟩ := Bool.and_eq_true_iff.1 hscan
    exact .inr ⟨hheeds, mem_map.2 ⟨c, mem_filter.2 ⟨hc, hscan⟩, rfl⟩⟩

lemma IR.Module.taken_of_mem_bodies {source : SourceFile} {filename : Option String}
    {m : IR.Module} (hm : source.parse filename = .ok m) {f : Function} (hf : f ∈ m.bodies) :
    f.Taken := by
  obtain ⟨hfunctions, hclasses⟩ := taken_of_parse hm
  rcases mem_append.1 hf with hf | hf
  · exact hfunctions f hf
  · obtain ⟨c, hc, hf⟩ := mem_flatMap.1 hf
    have hwritten := (mem_filter.1 hf).1
    exact (hclasses c hc).methods f (mem_filter.1 hwritten).1

/-- The text of a function that was read from a source file holds the code of its body. The
declarations in it are those of the sites of the function, in this order. A declaration under the
variable's own name is mutable if a search that it heeds notices a change of the variable, wherever
in the body. -/
theorem noticed_change_declared_mut {source : SourceFile} {filename : Option String}
    {m : IR.Module} (hm : source.parse filename = .ok m) {f : Function} (hf : f ∈ m.bodies)
    {x : Emit String} (hx : Emit.Writes f x) {e : Emitter} {text : String}
    (h : (e.run x).1 = .ok text) :
    ∃ (head : List String) (depth : Nat) (codes : List Code) (last : List String),
      text = Text.join "\n" (head ++ Code.blockLines depth codes ++ last) ∧
        List.Forall₂ (fun site mark => mark.1 = site.name ∧
            (site.keepsName = true → site.Noticed (blockChanges f.body) → mark.2 = true))
          (f.sites e.ctx.toFacts) (Code.blockMarks codes) := by
  have hstep : InStep { noted := noted (blockChanges f.body) } e.ctx.toFacts
      (noted (blockChanges f.body)) _ _ x :=
    writes_inStep hx rfl (fun _ _ _ _ => trivial) (fun _ _ => trivial)
      fun _ _ => not_mem_nil
  obtain ⟨head, depth, codes, last, htext, hdeclared⟩ :=
    hstep.of_run (fun _ hv h => absurd hv h) (Prod.ext h rfl : e.run x = (.ok text, (e.run x).2))
  have hobeyed := (IR.Module.taken_of_mem_bodies hm hf).sites_obeyed e.ctx.toFacts
  refine ⟨head, depth, codes, last, htext, ?_⟩
  refine ((forall₂_and_left _ _).2 ⟨hobeyed, hdeclared⟩).imp ?_
  rintro site mark ⟨hmarked, hwritten⟩
  refine ⟨hwritten.name, fun hkeeps hnoticed => hwritten.isMut hkeeps ?_⟩
  rcases hnoticed.due with ⟨hheeds, hchanged⟩ | hscan
  · exact .inl (hmarked hheeds hchanged)
  · exact .inr hscan

/-- A source file with a function that assigns one variable again and appends to another one. -/
def tallySource : SourceFile where
  text := "def f(n: int) -> int:\n t = 0\n s: list[int] = []\n for i in range(n):\n" ++
    "  if i > 3:\n   t = i\n  else:\n   s.append(i)\n return t\n"
  tree := .ok [
    .functionDef false "f" (.mk [] [.mk "n" (some (.name "int" .load 1)) 1] none [] [] none [])
      [.assign [.name "t" .store 2] (.constant (.int 0) none 2) 2, .annAssign (.name "s" .store 3)
          (.subscript (.name "list" .load 3) (.name "int" .load 3) .load 3)
          (some (.list [] .load 3)) 3,
        .forLoop (.name "i" .store 4) (.call (.name "range" .load 4) [.name "n" .load 4] [] 4)
          [.ifStmt (.compare (.name "i" .load 5) [(.gt, .constant (.int 3) none 5)] 5)
            [.assign [.name "t" .store 6] (.name "i" .load 6) 6]
            [.expr (.call (.attribute (.name "s" .load 8) "append" .load 8) [.name "i" .load 8] []
              8) 8]
            5]
          [] 4,
        .ret (some (.name "t" .load 9)) 9]
      [] (some (.name "int" .load 1)) 1]

def tallyModule : IR.Module :=
  (tallySource.parse none).toOption.getD { name := "" }

lemma isSome_tallySource :
    (tallySource.parse none).toOption.isSome = true ∧ tallyModule.bodies ≠ [] := by
  decide +kernel

lemma parse_tallySource : tallySource.parse none = .ok tallyModule := by
  have hsome := isSome_tallySource.1
  unfold tallyModule
  cases hparse : tallySource.parse none with
  | ok m => rfl
  | error error =>
    rw [hparse] at hsome
    cases hsome

def tallyFunction : Function :=
  tallyModule.bodies.head isSome_tallySource.2

lemma run_tallyFunction : (({} : Emitter).run (function tallyFunction)).1.toOption.isSome = true ∧
      tallyFunction.sites {} = [⟨"t", true, true, true, true⟩, ⟨"s", true, true, true, true⟩] ∧
      ∀ site ∈ tallyFunction.sites {}, site.Noticed (blockChanges tallyFunction.body) := by
  decide +kernel

theorem noticed_change_declared_mut_tallyFunction :
    ∃ (text : String) (head : List String) (depth : Nat) (codes : List Code) (last : List String),
      (({} : Emitter).run (Emit.function tallyFunction)).1 = .ok text ∧
        text = Text.join "\n" (head ++ Code.blockLines depth codes ++ last) ∧
        Code.blockMarks codes = [("t", true), ("s", true)] := by
  obtain ⟨hsome, hsites, hnoticed⟩ := run_tallyFunction
  cases htext : (({} : Emitter).run (function tallyFunction)).1 with
  | error error =>
    rw [htext] at hsome
    cases hsome
  | ok text =>
    obtain ⟨head, depth, codes, last, hjoin, hmarks⟩ := noticed_change_declared_mut
      parse_tallySource (head_mem isSome_tallySource.2) .function htext
    refine ⟨text, head, depth, codes, last, rfl, hjoin, ?_⟩
    have hmarks : List.Forall₂ _ (tallyFunction.sites {}) (Code.blockMarks codes) := hmarks
    rw [hsites] at hmarks hnoticed
    obtain ⟨⟨t, isMut⟩, others, ⟨ht, hmut⟩, hothers, hmarks⟩ := forall₂_cons_left_iff.1 hmarks
    obtain ⟨⟨s, isMut'⟩, rest, ⟨hs, hmut'⟩, hnil, rfl⟩ := forall₂_cons_left_iff.1 hothers
    obtain rfl : t = "t" := ht
    obtain rfl : s = "s" := hs
    obtain rfl : isMut = true := hmut rfl (hnoticed _ (by simp))
    obtain rfl : isMut' = true := hmut' rfl (hnoticed _ (by simp))
    cases hnil
    exact hmarks

/-- A source file with a function that assigns its variable again in a further branch only. -/
def choosingSource : SourceFile where
  text := "def f(a: bool, b: bool) -> int:\n x = 0\n if a:\n  pass\n elif b:\n  x = 1\n return x\n"
  tree := .ok [ .functionDef false "f"
      (.mk [] [.mk "a" (some (.name "bool" .load 1)) 1, .mk "b" (some (.name "bool" .load 1)) 1]
        none [] [] none [])
      [.assign [.name "x" .store 2] (.constant (.int 0) none 2) 2,
        .ifStmt (.name "a" .load 3) [.pass 4] [.ifStmt (.name "b" .load 5)
            [.assign [.name "x" .store 6] (.constant (.int 1) none 6) 6] [] 5]
          3,
        .ret (some (.name "x" .load 7)) 7]
      [] (some (.name "int" .load 1)) 1]

theorem elif_change_declared_constant :
    ((choosingSource.parse none).toOption.map fun m => m.bodies.map fun f => blockChanges f.body) =
        some [[⟨"x", false, false⟩]] ∧
      ((choosingSource.parse none).toOption.bind fun m => (transpile {} m).1.toOption) =
        some ("pub fn f(a: bool, b: bool) -> i64 \x7b\n    let x = 0;\n" ++
          "    if a \x7b\n        // pass\n    \x7d else if b \x7b\n        x = 1;\n" ++
          "    \x7d\n    x\n\x7d\n") := by
  decide +kernel

/-! ## Parameters -/

namespace IR

/-- The variables that a statement itself assigns. A resource with an empty name is not bound. -/
def Stmt.targets : Stmt → List String
  | .assign target _ _ _ _ _ => [target]
  | .tupleUnpack targets _ _ _ _ _ => targets
  | .forLoop target _ _ _ => [target]
  | .withBlock _ target _ _ => (target.filter (· != "")).toList
  | _ => []

mutual

/-- The statement and all statements inside of it, at any depth. -/
def Stmt.parts : Stmt → List Stmt
  | .ifStmt condition thenBody elifs elseBody line =>
    .ifStmt condition thenBody elifs elseBody line ::
      (blockParts thenBody ++ elifParts elifs ++ blockParts elseBody)
  | .forLoop target source body line => .forLoop target source body line :: blockParts body
  | .whileLoop condition body line => .whileLoop condition body line :: blockParts body
  | .withBlock context target body line => .withBlock context target body line :: blockParts body
  | .tryBlock body handlers elseBody finallyBody line =>
    .tryBlock body handlers elseBody finallyBody line ::
      (blockParts body ++ blockParts elseBody ++ handlerParts handlers ++ blockParts finallyBody)
  | s => [s]

def blockParts : List Stmt → List Stmt
  | [] => []
  | s :: rest => s.parts ++ blockParts rest

def elifParts : List IR.Elif → List Stmt
  | [] => []
  | (_, body) :: rest => blockParts body ++ elifParts rest

def handlerParts : List Handler → List Stmt
  | [] => []
  | (_, _, body) :: rest => blockParts body ++ handlerParts rest

end

mutual

lemma Stmt.flatMap_targets_parts (s : Stmt) : s.parts.flatMap Stmt.targets = s.assigned := by
  match s with
  | .ifStmt condition thenBody elifs elseBody line =>
    simp [Stmt.parts, Stmt.targets, Stmt.assigned, flatMap_targets_blockParts thenBody,
      flatMap_targets_elifParts elifs, flatMap_targets_blockParts elseBody]
  | .forLoop target source body line | .whileLoop condition body line
  | .withBlock context target body line =>
    simp [Stmt.parts, Stmt.targets, Stmt.assigned, flatMap_targets_blockParts body]
  | .tryBlock body handlers elseBody finallyBody line =>
    simp [Stmt.parts, Stmt.targets, Stmt.assigned, flatMap_targets_blockParts body,
      flatMap_targets_blockParts elseBody, flatMap_targets_handlerParts handlers,
      flatMap_targets_blockParts finallyBody]
  | .assign .. | .attrAssign .. | .subscriptAssign .. | .tupleUnpack .. | .expr .. | .ret ..
  | .raise .. | .breakLoop _ | .continueLoop _ | .pass _ | .other .. =>
    simp [Stmt.parts, Stmt.targets, Stmt.assigned]

lemma flatMap_targets_blockParts (body : List Stmt) :
    (blockParts body).flatMap Stmt.targets = blockAssigned body := by
  match body with
  | [] => rfl
  | s :: rest =>
    rw [blockParts, flatMap_append, s.flatMap_targets_parts, flatMap_targets_blockParts rest,
      blockAssigned]

lemma flatMap_targets_elifParts (elifs : List IR.Elif) :
    (elifParts elifs).flatMap Stmt.targets = elifAssigned elifs := by
  match elifs with
  | [] => rfl
  | (_, body) :: rest =>
    rw [elifParts, flatMap_append, flatMap_targets_blockParts body,
      flatMap_targets_elifParts rest, elifAssigned]

lemma flatMap_targets_handlerParts (handlers : List IR.Handler) :
    (handlerParts handlers).flatMap Stmt.targets = handlerAssigned handlers := by
  match handlers with
  | [] => rfl
  | (_, _, body) :: rest =>
    rw [handlerParts, flatMap_append, flatMap_targets_blockParts body,
      flatMap_targets_handlerParts rest, handlerAssigned]

end

/-- A statement of the block, at any depth, assigns the variable. -/
def Assigns (body : List Stmt) (x : String) : Prop :=
  ∃ s ∈ blockParts body, x ∈ s.targets

lemma assigns_iff {x : String} : Assigns body x ↔ ((assignmentCounts body).get? x).getD 0 ≠ 0 := by
  rw [assignmentCounts, get?_countNames, ← Nat.pos_iff_ne_zero, count_pos_iff,
    ← flatMap_targets_blockParts, mem_flatMap, Assigns]

end IR

/-- The text of the type that an annotation is resolved to. -/
def Emitter.typeText (e : Emitter) (t : Ty) : String :=
  ((Resolver.resolve t).run e.resolver).1.render

/-- The text declares the parameter with this type, as mutable exactly if its variable changes and
the type is no reference. -/
def DeclaredAs (changes : String → Prop) (type : Param → String) (p : Param) (text : String) :
    Prop :=
  ∃ isMut : Bool, text = Code.mutMark isMut ++ p.name ++ ": " ++ type p ∧
    (isMut = true ↔ changes p.name ∧ Text.startsWith (type p) "&" = false)

/-- The variables that are noted as changed in place after the scan of a block. -/
def Emitter.scanned (e : Emitter) (body : List Stmt) : NameSet :=
  (run { e with ctx := { e.ctx with mutVars := [] } } (Emit.scanBlock body)).2.ctx.mutVars

namespace Emit

variable {e : Emitter}

lemma typeText_congr {d : Emitter} (h : e.resolver.Same d.resolver) (t : Ty) :
    d.typeText t = e.typeText t :=
  congrArg RustType.render ((Resolver.resolve_consults t).run_congr h)

lemma run_param (body : List Stmt) (adjust : Param → String → String) (p : Param) :
    ∃ resolver text, e.run (param (IR.assignmentCounts body) adjust p) =
        (.ok text, { e with resolver }) ∧ e.resolver.Same resolver ∧
      DeclaredAs (fun n => IR.Assigns body n ∨ n ∈ e.ctx.mutVars)
        (fun p => adjust p (e.typeText p.type)) p text := by
  refine ⟨_, _, rfl, (Resolver.resolve_consults p.type).run_same e.resolver.within_free, _, rfl, ?_⟩
  rw [Bool.and_eq_true_iff, Bool.or_eq_true_iff, bne_iff_ne, contains_iff_mem,
    Bool.not_eq_true', ← IR.assigns_iff]
  rfl

lemma run_params (body : List Stmt) (adjust : Param → String → String) (ps : List Param) :
    ∃ resolver texts, e.run (ps.mapM (param (IR.assignmentCounts body) adjust)) =
        (.ok texts, { e with resolver }) ∧
      List.Forall₂ (DeclaredAs (fun n => IR.Assigns body n ∨ n ∈ e.ctx.mutVars)
        fun p => adjust p (e.typeText p.type)) ps texts := by
  induction ps generalizing e with
  | nil => exact ⟨_, _, rfl, .nil⟩
  | cons p ps ih =>
    obtain ⟨resolver, text, hrun, hsame, htext⟩ := run_param (e := e) body adjust p
    obtain ⟨resolver', texts, hruns, htexts⟩ := ih (e := { e with resolver })
    simp only [typeText_congr (d := { e with resolver }) hsame] at htexts
    refine ⟨resolver', text :: texts, ?_, .cons htext htexts⟩
    rw [mapM_cons, run_bind_ok hrun, run_bind_ok hruns]
    rfl

def Looks {α : Type} (x : Emit α) : Prop :=
  ∀ e : Emitter, (e.run x).2 = e

lemma decorationLines_looks (decoration : Option Decoration) : Looks (decorationLines decoration) := by
  intro e
  unfold decorationLines
  split
  · split <;> rfl
  · rfl

lemma runtimeLines_looks (f : Function) : Looks (runtimeLines f) := by
  intro e
  unfold runtimeLines
  dsimp only
  split <;> rfl

lemma docLines_looks (docstring : Option String) : Looks (docLines docstring) := by
  intro e
  unfold docLines
  split <;> rfl

lemma Looks.of_run_bind {α β : Type} {x : Emit α} (hx : Looks x) {f : α → Emit β} {b : β}
    {e' : Emitter} (h : e.run (x >>= f) = (.ok b, e')) : ∃ a, e.run (f a) = (.ok b, e') := by
  obtain ⟨a, e₁, ha, hf⟩ := Emitter.of_run_bind h
  have he : e₁ = e := by rw [← hx e, ha]
  exact ⟨a, he ▸ hf⟩

lemma margin_looks : Looks margin :=
  fun _ => rfl

lemma attributeLines_looks (attributes : List String) : Looks (attributeLines attributes) :=
  fun _ => rfl

/-- With the variables noted by the scan, the parameters are declared as the body asks for. -/
lemma exists_params_of_run {adjust : Param → String → String}
    {ps : List Param} {g : List String → Emit String} {text : String} {e' : Emitter}
    (h : e.run (withOwnMutVars do
      scanBlock body
      let params ← ps.mapM (param (IR.assignmentCounts body) adjust)
      g params) = (.ok text, e')) :
    ∃ (params : List String) (e₁ e₂ : Emitter),
      List.Forall₂ (DeclaredAs (fun n => IR.Assigns body n ∨ n ∈ e.scanned body)
          fun p => adjust p (e.typeText p.type)) ps params ∧
        e₁.run (g params) = (.ok text, e₂) := by
  rw [withOwnMutVars, Emitter.run_context_bind, Emitter.run_change_bind] at h
  obtain ⟨text', e₂, hinner, hrest⟩ := of_run_bind h
  obtain ⟨_, e₁, hscan, hparams⟩ := of_run_bind hinner
  obtain ⟨resolver, params, hrun, hdeclared⟩ := run_params (e := e₁) body adjust ps
  rw [run_bind_ok hrun] at hparams
  cases hrest
  refine ⟨params, _, _, ?_, hparams⟩
  have hkin := (scanBlock_plain body).kin_run { e with ctx := { e.ctx with mutVars := [] } }
  rw [hscan] at hkin
  simp only [typeText_congr hkin.resolver] at hdeclared
  rw [Emitter.scanned, hscan]
  exact hdeclared

/-- What writes a function, or a method that is no constructor, and how it adjusts the types of the
parameters: the framework fixes some of those of a service. -/
inductive Signs (f : Function) : Emit String → (Param → String → String) → Prop
  | function : Signs f (function f) fun _ type => type
  | method (style : MethodStyle) (hname : f.name ≠ "__init__") :
    Signs f (method f style) fun p type =>
      if style.isService then serviceParamType f.name p.name type else type

end Emit

/-- The signature of a function, or of a method that is no constructor, declares each parameter in
its place with its resolved type. The declaration is mutable exactly if a statement of the body, at
any depth, assigns the variable or the scan of the body notes it as changed in place, and the type
is no reference. -/
theorem params_declared {f : Function} {x : Emit String} {adjust : Param → String → String}
    (hx : Emit.Signs f x adjust) {e : Emitter} {text : String} (h : (e.run x).1 = .ok text) :
    ∃ (head rest : List String) (marks name result : String) (receiver params : List String),
      text = Text.join "\n" (head ++ [marks ++ "fn " ++ name ++ "(" ++
          Text.commas (receiver ++ params) ++ ")" ++ result ++ Code.opening] ++ rest) ∧
        name ∈ [f.name, Emit.methodName f.name] ∧ receiver ∈ [[], Emit.receiver f] ∧
        List.Forall₂ (DeclaredAs (fun n => IR.Assigns f.body n ∨ n ∈ e.scanned f.body)
          fun p => adjust p (e.typeText p.type)) f.params params := by
  have h : e.run x = (.ok text, (e.run x).2) := Prod.ext h rfl
  cases hx with
  | function =>
    unfold function at h
    obtain ⟨outer, h⟩ := margin_looks.of_run_bind h
    obtain ⟨decoration, h⟩ := (decorationLines_looks _).of_run_bind h
    obtain ⟨attributes, h⟩ := (attributeLines_looks _).of_run_bind h
    obtain ⟨runtime, h⟩ := (runtimeLines_looks f).of_run_bind h
    obtain ⟨doc, h⟩ := (docLines_looks _).of_run_bind h
    obtain ⟨params, e₁, e₂, hdeclared, h⟩ := exists_params_of_run h
    obtain ⟨result, _, -, h⟩ := of_run_bind h
    obtain ⟨codes, _, -, h⟩ := of_run_bind h
    obtain ⟨lines, _, -, h⟩ := of_run_bind h
    cases h
    exact ⟨_, lines ++ [outer ++ Code.closing], outer ++ "pub " ++ asyncMark f.isAsync, f.name,
      result, [], params, congrArg (Text.join "\n") (append_assoc _ _ _), by simp, by simp, hdeclared⟩
  | method style hname =>
    have hinit : ¬ (f.name == "__init__") = true := fun heq => hname (beq_iff_eq.1 heq)
    unfold method at h
    rw [if_neg hinit] at h
    obtain ⟨outer, h⟩ := margin_looks.of_run_bind h
    obtain ⟨decoration, h⟩ := (decorationLines_looks _).of_run_bind h
    obtain ⟨attributes, h⟩ := (attributeLines_looks _).of_run_bind h
    obtain ⟨doc, h⟩ := (docLines_looks _).of_run_bind h
    obtain ⟨params, e₁, e₂, hdeclared, h⟩ := exists_params_of_run h
    obtain ⟨result, _, -, h⟩ := of_run_bind h
    obtain ⟨lines, _, -, h⟩ := of_run_bind h
    cases h
    exact ⟨_, lines ++ [outer ++ Code.closing], outer ++ (style.visibility ++ asyncMark f.isAsync),
      methodName f.name, result, receiver f, params,
      congrArg (Text.join "\n") (append_assoc _ _ _), by simp, by simp, hdeclared⟩

/-- A function that assigns one of its parameters in a further branch inside of a loop. -/
def countingDown : Function where
  name := "f"
  params := [{ name := "n", type := .prim .int }, { name := "k", type := .prim .int }]
  body := [.whileLoop (.name "a" none) [.ifStmt (.name "b" none) [.pass none]
      [(.name "c" none, [.assign "n" (.name "k" none) none false false none])] [] none]
    none]

theorem params_declared_countingDown :
    ∃ head rest marks result, (({} : Emitter).run (Emit.function countingDown)).1 =
      .ok (Text.join "\n" (head ++ [marks ++ "fn f(mut n: i64, k: i64)" ++ result ++ Code.opening]
        ++ rest)) := by
  obtain ⟨text, htext⟩ := Emitter.exists_ok_of_isSome (e := {}) (x := Emit.function countingDown)
    (by decide +kernel)
  obtain ⟨head, rest, marks, name, result, receiver, params, rfl, hname, hreceiver, hparams⟩ :=
    params_declared .function htext
  have hnames : [countingDown.name, Emit.methodName countingDown.name] = ["f", "f"] := by decide
  obtain rfl : name = "f" := by simpa [hnames] using hname
  obtain rfl : receiver = [] := by simpa [countingDown, Emit.receiver] using hreceiver
  rcases hparams with _ | ⟨⟨isMut, rfl, hn⟩, _ | ⟨⟨isMut', rfl, hk⟩, _ | _⟩⟩
  obtain rfl : isMut = true := hn.2 ⟨.inl (IR.assigns_iff.2 (by decide)), rfl⟩
  obtain rfl : isMut' = false := by
    refine Bool.eq_false_iff.2 fun h => ?_
    rcases (hk.1 h).1 with hassigns | hnoted
    · exact absurd (IR.assigns_iff.1 hassigns) (by decide)
    · exact absurd hnoted (by decide)
  refine ⟨head, rest, marks, result, htext.trans ?_⟩
  simp only [String.append_assoc]
  rfl

end Oxidize
