import Mathlib.Tactic.Lemma
import Oxidize.Stub.Package

/-!
# The stubs and the mapping file of a crate

The stub module declares the methods of structures and of enumerations. The mapping file has entries
for the methods of structures only: a declared method is mapped exactly if a structure has the name
of its type (`declared_mapped_iff`). Functions are always mapped.
-/

namespace Oxidize.Stub

open Interface (Callable TypeDecl)
open List

/-! ## Keys -/

deriving instance DecidableEq for CallKind

abbrev Key := CallKind × String

def Entry.key? : Entry → Option Key
  | .call kind _ _ mapping => some (kind, mapping.python)
  | .remark _ | .path .. => none

def mappedKeys (entries : List Entry) : List Key :=
  entries.filterMap Entry.key?

def functionKey (s : Subject) (f : Callable) : Key :=
  (.functions, s!"{s.name}.{safeName f.name}")

/-- The key of a method: of one that is called on its type the name begins with the crate. -/
def methodKey (s : Subject) (t : TypeDecl) (m : Callable) : Key :=
  if m.isStatic then (.functions, s!"{s.name}.{t.name}.{safeName m.name}")
  else (.methods, s!"{t.name}.{safeName m.name}")

/-- The keys of what is no method of a declared type: aliases for results, what is known beforehand,
functions and constants. -/
def otherKeys (s : Subject) : List Key :=
  mappedKeys (resultEntries s ++ knownTypeEntries s ++ knownFunctionEntries s ++ macroEntries s ++
    extraTypeEntries s ++ knownMethodEntries s ++ constructorEntries s ++ constantEntries s ++
    aliasEntries s) ++ s.crate.publicFunctions.map (functionKey s)

def typeKeys (s : Subject) (t : TypeDecl) : List Key :=
  (s.crate.methodsOf t.name).map (methodKey s t)

variable {s : Subject} {t : TypeDecl} {m : Callable} {key : Key}

lemma mappedKeys_append (l l' : List Entry) :
    mappedKeys (l ++ l') = mappedKeys l ++ mappedKeys l' :=
  filterMap_append

lemma mappedKeys_map {f : Callable → Entry} {k : Callable → Key} {l : List Callable}
    (h : ∀ m ∈ l, (f m).key? = some (k m)) : mappedKeys (l.map f) = l.map k := by
  induction l with
  | nil => rfl
  | cons m l ih =>
    have hrest := ih fun m hm => h m (mem_cons_of_mem _ hm)
    rw [mappedKeys, map_cons, filterMap_cons_some (h m mem_cons_self)]
    exact congrArg (k m :: ·) hrest

lemma mappedKeys_flatten (ls : List (List Entry)) :
    mappedKeys ls.flatten = (ls.map mappedKeys).flatten :=
  filterMap_flatten

/-! ## The keys of a mapping file -/

/-- The result of the action has the property, whatever was noted before. -/
def Gives {α : Type} (Q : α → Prop) (x : Noting α) : Prop :=
  ∀ log, Q (x.run log).1

namespace Gives

variable {α β γ : Type}

lemma pure {Q : α → Prop} {a : α} (h : Q a) : Gives Q (pure a) :=
  fun _ => h

lemma bind {P : α → Prop} {Q : β → Prop} {x : Noting α} {f : α → Noting β} (hx : Gives P x)
    (hf : ∀ a, P a → Gives Q (f a)) : Gives Q (x >>= f) :=
  fun log => hf _ (hx log) _

lemma mapM {f : α → Noting β} {k : β → γ} {g : α → γ} (h : ∀ a, Gives (k · = g a) (f a))
    (l : List α) : Gives (·.map k = l.map g) (l.mapM f) := by
  induction l with
  | nil => exact fun _ => rfl
  | cons a l ih =>
    rw [mapM_cons]
    refine (h a).bind fun b hb => ih.bind fun bs hbs _ => ?_
    exact cons_eq_cons.2 ⟨hb, hbs⟩

end Gives

lemma gives_functionEntry (f : Callable) :
    Gives (·.key? = some (functionKey s f)) (functionEntry s f) := by
  intro log
  unfold functionEntry
  cases s.known.functionPaths.get? f.name <;> rfl

lemma gives_staticEntries (t : TypeDecl) :
    Gives (mappedKeys · = ((s.crate.methodsOf t.name).filter (·.isStatic)).map (methodKey s t))
      (staticEntries s t) := by
  refine fun _ => mappedKeys_map fun m hm => ?_
  have hstatic : m.isStatic = true := (mem_filter.1 hm).2
  simp only [staticEntry, methodKey, hstatic]
  split <;> rfl

lemma mappedKeys_methodEntries (t : TypeDecl) : mappedKeys (methodEntries s t) =
      ((s.crate.methodsOf t.name).filter (!·.isStatic)).map (methodKey s t) := by
  refine mappedKeys_map fun m hm => ?_
  have hstatic : m.isStatic = false := by simpa using (mem_filter.1 hm).2
  simp only [methodEntry, Entry.key?, methodKey, hstatic]
  rfl

lemma gives_unknownMacroEntries : Gives (mappedKeys · = []) (unknownMacroEntries s) := by
  intro log
  unfold unknownMacroEntries
  dsimp only
  split <;> rfl

lemma gives_variantEntries (t : TypeDecl) : Gives (mappedKeys · = []) (variantEntries s t) := by
  intro log
  show mappedKeys (List.map _ _) = []
  simp [mappedKeys, filterMap_map, Entry.key?, Function.comp_def]

lemma mappedKeys_knownPathEntries : mappedKeys (knownPathEntries s) = [] := by
  simp [knownPathEntries, mappedKeys, Entry.key?, Function.comp_def]

lemma mem_mappedKeys {es : List Entry} :
    key ∈ mappedKeys es ↔ ∃ entry ∈ es, entry.key? = some key :=
  mem_filterMap

lemma mem_typeKeys : key ∈ typeKeys s t ↔
    key ∈ ((s.crate.methodsOf t.name).filter (·.isStatic)).map (methodKey s t) ∨
      key ∈ ((s.crate.methodsOf t.name).filter (!·.isStatic)).map (methodKey s t) := by
  rw [typeKeys, ← mem_append, ← map_append, mem_map, mem_map]
  refine exists_congr fun m => and_congr_left fun _ => ?_
  cases hstatic : m.isStatic <;> simp [hstatic]

/-- A call is mapped if it is a method of a structure that is not replaced, or no method. -/
lemma gives_entries : Gives (fun es => ∀ key, key ∈ mappedKeys es ↔
      key ∈ otherKeys s ∨ ∃ t ∈ ownTypes s s.crate.structs, key ∈ typeKeys s t) (entries s) := by
  unfold entries
  refine gives_unknownMacroEntries.bind fun unknown hunknown => ?_
  refine (Gives.mapM gives_functionEntry _).bind fun functions hfunctions => ?_
  refine (Gives.mapM gives_staticEntries _).bind fun statics hstatics => ?_
  refine Gives.bind (Gives.mapM (fun t _ => (rfl : Entry.key? _ = none)) _) fun types htypes => ?_
  refine (Gives.mapM gives_variantEntries _).bind fun variants hvariants => .pure fun key => ?_
  have hcalls : key ∈ mappedKeys functions ↔ key ∈ s.crate.publicFunctions.map (functionKey s) := by
    simp only [mem_mappedKeys, ← mem_map, hfunctions]
    simp
  have hnone : key ∉ mappedKeys types := by
    simp only [mem_mappedKeys, ← mem_map, htypes]
    simp
  have hmethods : (∃ t ∈ ownTypes s s.crate.structs, key ∈ typeKeys s t) ↔
      key ∈ mappedKeys statics.flatten ∨
        key ∈ mappedKeys ((ownTypes s s.crate.structs).flatMap (methodEntries s)) := by
    rw [mappedKeys_flatten, hstatics, ← flatMap_def, flatMap_def (f := methodEntries s),
      mappedKeys_flatten, map_map, ← flatMap_def]
    simp only [mem_flatMap, Function.comp_apply, mappedKeys_methodEntries, mem_typeKeys,
      and_or_left, exists_or]
  have hvariant : key ∉ mappedKeys variants.flatten := by
    rw [mappedKeys_flatten, hvariants, ← flatMap_def]
    simp
  have hremark : ∀ lines, key ∉ mappedKeys [.remark lines] := fun _ => not_mem_nil
  rw [hmethods]
  simp only [otherKeys, mappedKeys_append, mem_append, hcalls, hunknown, hnone, hvariant,
    hremark, mappedKeys_knownPathEntries, not_mem_nil, or_false]
  grind

lemma gives_mappingFile : Gives (fun text => ∃ entries : List Entry, text = Text.join "\n"
        (packageLines s.name s.ident s.version ++ dependencyLines s.name s.version ++
          featureLines s.crate ++ entries.flatMap Entry.lines) ∧ ∀ key, key ∈ mappedKeys entries ↔
        key ∈ otherKeys s ∨ ∃ t ∈ ownTypes s s.crate.structs, key ∈ typeKeys s t) (mappingFile s) :=
  gives_entries.bind fun entries hkeys => .pure ⟨entries, rfl, hkeys⟩

/-! ## Declared methods -/

lemma eq_of_dotted {a b c d : String} (ha : '.' ∉ a.toList) (hb : '.' ∉ b.toList)
    (h : a ++ "." ++ c = b ++ "." ++ d) : a = b := by
  have hcut {x y : String} (hx : '.' ∉ x.toList) :
      (x ++ "." ++ y).toList.takeWhile (· != '.') = x.toList := by
    have hall : ∀ d ∈ x.toList, (d != '.') = true := fun d hd => bne_iff_ne.2 fun hdot => hx (hdot ▸ hd)
    simp [takeWhile_append_of_pos hall]
  rw [← String.toList_inj, ← hcut ha, h, hcut hb]

/-- Methods of two types have the same key only if the types have the same name. -/
lemma name_eq_of_mem_typeKeys {u : TypeDecl} (hu : '.' ∉ u.name.toList)
    (ht : '.' ∉ t.name.toList) (h : methodKey s t m ∈ typeKeys s u) : u.name = t.name := by
  obtain ⟨m', -, hkey⟩ := mem_map.1 h
  unfold methodKey at hkey
  split at hkey <;> split at hkey <;> cases (Prod.mk.inj hkey).1
  · have hname := (Prod.mk.inj hkey).2
    simp only [String.append_assoc, String.append_right_inj] at hname
    rw [← String.append_assoc, ← String.append_assoc] at hname
    exact eq_of_dotted hu ht hname
  · exact eq_of_dotted hu ht (Prod.mk.inj hkey).2

def Declares (s : Subject) (lines : List String) : Prop :=
  ∃ all, declarations s = Text.join "\n" all ∧ lines <:+: all

lemma infix_flatMap {α : Type} {l : List α} {a : α} {f : α → List String} (h : a ∈ l) :
    f a <:+: l.flatMap f :=
  infix_of_mem_flatten (mem_map_of_mem h)

lemma declares_of_isInfix {lines : List String}
    (h : lines <:+: s.crate.structs.flatMap (structLines s.crate) ++
      s.crate.enums.flatMap (enumLines s.crate) ++ s.crate.publicFunctions.flatMap functionLines) :
    Declares s lines := by
  refine ⟨_, rfl, h.trans ?_⟩
  simp only [parts, named, flatMap_append, flatMap_cons, flatMap_map, cons_append, append_assoc]
  iterate 3 apply infix_append_of_infix_right
  exact List.IsPrefix.isInfix (by simp)

lemma declares_method (ht : t ∈ s.crate.structs ++ s.crate.enums)
    (hm : m ∈ s.crate.methodsOf t.name) : Declares s (methodLines t.name m) := by
  have hmethods : methodLines t.name m <:+: methodsLines s.crate t := infix_flatMap hm
  refine declares_of_isInfix (infix_append_of_infix_left (hmethods.trans ?_))
  rcases mem_append.1 ht with ht | ht
  · have hclass : methodsLines s.crate t <:+: structLines s.crate t := by
      unfold structLines
      dsimp only
      split
      · rename_i hempty
        rw [isEmpty_iff.1 hempty]
        exact nil_infix
      · exact (suffix_append _ _).isInfix
    exact (hclass.trans (infix_flatMap ht)).trans (prefix_append _ _).isInfix
  · have hclass : methodsLines s.crate t <:+: enumLines s.crate t := (suffix_append _ _).isInfix
    exact (hclass.trans (infix_flatMap ht)).trans (suffix_append _ _).isInfix

/-- Each declared function is mapped, and a declared method of a type that is not replaced is mapped
exactly if a structure has the name of its type, or something else has its key. -/
theorem declared_mapped_iff (s : Subject) (log : Log)
    (hnames : ∀ t ∈ s.crate.structs ++ s.crate.enums, '.' ∉ t.name.toList) :
    ∃ entries : List Entry,
      ((mappingFile s).run log).1 = Text.join "\n" (packageLines s.name s.ident s.version ++
        dependencyLines s.name s.version ++ featureLines s.crate ++ entries.flatMap Entry.lines) ∧
      (∀ f ∈ s.crate.publicFunctions,
        Declares s (functionLines f) ∧ functionKey s f ∈ mappedKeys entries) ∧
      ∀ t ∈ s.crate.structs ++ s.crate.enums, s.replaces t.name = false →
        ∀ m ∈ s.crate.methodsOf t.name, Declares s (methodLines t.name m) ∧
          (methodKey s t m ∈ mappedKeys entries ↔
            (∃ u ∈ s.crate.structs, u.name = t.name) ∨ methodKey s t m ∈ otherKeys s) := by
  obtain ⟨entries, htext, hkeys⟩ := gives_mappingFile (s := s) log
  refine ⟨entries, htext, fun f hf => ⟨declares_of_isInfix ?_, (hkeys _).2 (.inl ?_)⟩, ?_⟩
  · exact (infix_flatMap hf).trans (suffix_append _ _).isInfix
  · exact mem_append_right _ (mem_map_of_mem hf)
  intro t ht hown m hm
  refine ⟨declares_method ht hm, (hkeys _).trans (or_comm.trans (or_congr_left ?_))⟩
  constructor
  · rintro ⟨u, hu, hkey⟩
    have hstruct := (mem_filter.1 hu).1
    exact ⟨u, hstruct, name_eq_of_mem_typeKeys (hnames u (mem_append_left _ hstruct))
      (hnames t ht) hkey⟩
  · rintro ⟨u, hu, hname⟩
    refine ⟨u, mem_filter.2 ⟨hu, by rw [hname, hown]; rfl⟩, ?_⟩
    have hkey : methodKey s u = methodKey s t := funext fun _ => by simp only [methodKey, hname]
    rw [typeKeys, hname, hkey]
    exact mem_map_of_mem hm

/-- A crate with a structure and an enumeration that have one method each. -/
def paintCrate : Subject where
  crate :=
    { structs := [{ name := "Brush" }], enums := [{ name := "Mode" }]
      impls := [⟨"Brush", [{ name := "thin", isStatic := true }]⟩,
        ⟨"Mode", [{ name := "parse", isStatic := true }]⟩] }
  name := "paint"
  version := "1.0"

theorem declared_mapped_paintCrate :
    (∀ t ∈ paintCrate.crate.structs ++ paintCrate.crate.enums, '.' ∉ t.name.toList) ∧
      ∃ entries : List Entry, (.functions, "paint.Brush.thin") ∈ mappedKeys entries := by
  have hnames : ∀ t ∈ paintCrate.crate.structs ++ paintCrate.crate.enums, '.' ∉ t.name.toList := by
    decide
  obtain ⟨entries, -, -, hmethods⟩ := declared_mapped_iff paintCrate .off hnames
  have hthin := hmethods { name := "Brush" } mem_cons_self (by decide)
    { name := "thin", isStatic := true } mem_cons_self
  exact ⟨hnames, entries, hthin.2.2 (.inl ⟨_, mem_cons_self, rfl⟩)⟩

/-- A method of an enumeration is declared, but only that of the structure is mapped. -/
theorem enum_method_unmapped :
    Declares paintCrate (methodLines "Mode" { name := "parse", isStatic := true }) ∧
      mappedKeys ((entries paintCrate).run .off).1 = [(.functions, "paint.Brush.thin")] :=
  ⟨declares_method (t := { name := "Mode" }) (mem_cons_of_mem _ mem_cons_self)
    mem_cons_self, by decide +kernel⟩

end Oxidize.Stub
