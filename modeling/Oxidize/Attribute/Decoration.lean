import Oxidize.Data.Value

/-!
# The attributes of one item

A decoration gathers everything that is asked for one item and writes the attributes in a fixed
order: custom ones first, then conditions, derived traits, layout, serialisation, lints, hints to
the compiler, deprecation, and last the documentation, one attribute a line.

An attribute such as `#[inline(always)]` is a name and what stands in the parentheses behind it.
-/

namespace Oxidize

inductive AttributeArgs where
  | none
  | text (content : String)
  | items (values : List Value)
  | pairs (entries : List (String × Value))

structure Attribute where
  name : String
  args : AttributeArgs := .none

namespace Attribute

/-- A named value: texts stand in double quotes, other values as displayed. -/
def pairText : String × Value → String
  | (key, .str s) => s!"{key} = \"{s}\""
  | (key, value) => s!"{key} = {value.display}"

/-- A named option: `true` is written by its name alone. -/
def optionText : String × Value → String
  | (key, .bool true) => key
  | entry => pairText entry

def render (a : Attribute) : String :=
  match a.args with
  | .none => s!"#[{a.name}]"
  | .text content => s!"#[{a.name}({content})]"
  | .items values => s!"#[{a.name}({Text.commas (values.map Value.display)})]"
  | .pairs entries => s!"#[{a.name}({Text.commas (entries.map pairText)})]"

/-- The attribute with one value behind its name; a number or a truth value is left out. -/
def ofValue (name : String) : Value → Attribute
  | .str s => ⟨name, .text s⟩
  | .list xs => ⟨name, .items xs⟩
  | .table es => ⟨name, .pairs es⟩
  | _ => ⟨name, .none⟩

/-- The attribute with positional and named values. Named values win; a single positional text is
written as it is. -/
def custom (name : String) (args : List Value) (named : Table Value) : Attribute :=
  if named.isEmpty then
    match args with
    | [] => ⟨name, .none⟩
    | [.str s] => ⟨name, .text s⟩
    | _ => ⟨name, .items args⟩
  else ⟨name, .pairs named⟩

/-- The attribute with a text behind its name, if there is one. -/
def ofText? (name : String) : Option String → Attribute
  | none => ⟨name, .none⟩
  | some content => ⟨name, .text content⟩

def mustUse (message? : Option String) : Attribute :=
  ofText? "must_use" (message?.map fun message => s!"\"{message}\"")

def doc (content : String) : Attribute :=
  ⟨"doc", .text s!"\"{content}\""⟩

def deprecated (since note : String) : Attribute :=
  let parts :=
    (if since == "" then [] else [s!"since = \"{since}\""]) ++
      (if note == "" then [] else [s!"note = \"{note}\""])
  ⟨"deprecated", if parts.isEmpty then .none else .text (Text.commas parts)⟩

def serde (options : List (String × Value)) : Attribute :=
  ⟨"serde", if options.isEmpty then .none else .text (Text.commas (options.map optionText))⟩

end Attribute

structure DeriveTrait where
  name : String
  /-- The crate it comes from, if it is no part of the standard library. -/
  crate : Option String := none

namespace DeriveTrait

def path (t : DeriveTrait) : String :=
  match t.crate with
  | some crate => s!"{crate}::{t.name}"
  | none => t.name

def known : List DeriveTrait :=
  [⟨"Debug", none⟩, ⟨"Clone", none⟩, ⟨"Copy", none⟩, ⟨"Default", none⟩, ⟨"PartialEq", none⟩,
   ⟨"Eq", none⟩, ⟨"PartialOrd", none⟩, ⟨"Ord", none⟩, ⟨"Hash", none⟩,
   ⟨"Serialize", some "serde"⟩, ⟨"Deserialize", some "serde"⟩]

def unnamed : DeriveTrait :=
  ⟨"", none⟩

def find? (name : String) : Option DeriveTrait :=
  known.find? fun t => t.name == name

end DeriveTrait

inductive Hint where
  | off
  | on
  | text (content : String)

/-- Whether an item is deprecated, and since when and why. -/
inductive Deprecation where
  | off
  | plain
  | noted (since note : Option String)

inductive DecorationError where
  | conditionalNotParts
  | conditionalNotPair
  | lintsNotTexts
  | docNotText
  | optionsNotNamed
  deriving DecidableEq

/-- The class of errors that a fault of a decoration belongs to. -/
def DecorationError.className : DecorationError → String
  | conditionalNotPair => "ValueError"
  | docNotText | optionsNotNamed => "AttributeError"
  | _ => "TypeError"

/-- What is asked for one item. Empty texts and lists ask for nothing; whether a value has the form
that its attribute needs is decided when the attribute is written. -/
structure Decoration where
  custom : List Attribute := []
  cfg : String := ""
  cfgAttr : Value := .null
  derives : List String := []
  repr : String := ""
  serde : Value := .null
  allow : Value := .null
  deny : Value := .null
  warn : Value := .null
  inline : Hint := .off
  cold : Bool := false
  mustUse : Hint := .off
  deprecated : Deprecation := .off
  doc : Value := .null

namespace Decoration

def listLine (name : String) (items : List String) : List String :=
  if items.isEmpty then [] else [s!"#[{name}({Text.commas items})]"]

def textLine (name text : String) : List String :=
  if text == "" then [] else [s!"#[{name}({text})]"]

def cfgAttrLine (v : Value) : Except DecorationError (List String) :=
  if !v.isSet then .ok []
  else
    match v.parts? with
    | some [condition, applied] =>
      .ok [s!"#[cfg_attr({condition.display}, {applied.display})]"]
    | some _ => .error .conditionalNotPair
    | none => .error .conditionalNotParts

def lintLine (name : String) (v : Value) : Except DecorationError (List String) :=
  if !v.isSet then .ok []
  else
    match v.parts?.bind fun parts => parts.mapM Value.text? with
    | some lints => .ok (listLine name lints)
    | none => .error .lintsNotTexts

def serdeLine (v : Value) : Except DecorationError (List String) :=
  if !v.isSet then .ok []
  else
    match v with
    | .table options => .ok (listLine "serde" (options.map Attribute.optionText))
    | _ => .error .optionsNotNamed

def inlineLine : Hint → List String
  | .off => []
  | .on => ["#[inline]"]
  | .text mode => [s!"#[inline({mode})]"]

def mustUseLine : Hint → List String
  | .off => []
  | .on => ["#[must_use]"]
  | .text message => [s!"#[must_use = \"{message}\"]"]

def deprecatedLine : Deprecation → List String
  | .off => []
  | .plain => ["#[deprecated]"]
  | .noted since note =>
    let parts := (since.toList.map fun s => s!"since = \"{s}\"") ++
      (note.toList.map fun n => s!"note = \"{n}\"")
    [s!"#[deprecated({Text.commas parts})]"]

def docLine (line : String) : String :=
  let escaped := Text.replaceAll (Text.replaceAll line "\\" "\\\\") "\"" "\\\""
  s!"#[doc = \"{escaped}\"]"

def docLines (v : Value) : Except DecorationError (List String) :=
  if !v.isSet then .ok []
  else
    match v with
    | .str text => .ok ((Text.splitOn text "\n").map docLine)
    | _ => .error .docNotText

def lines (d : Decoration) : Except DecorationError (List String) := do
  let conditional ← cfgAttrLine d.cfgAttr
  let serde ← serdeLine d.serde
  let allow ← lintLine "allow" d.allow
  let deny ← lintLine "deny" d.deny
  let warn ← lintLine "warn" d.warn
  let doc ← docLines d.doc
  return d.custom.map Attribute.render
    ++ textLine "cfg" d.cfg ++ conditional
    ++ listLine "derive" d.derives ++ textLine "repr" d.repr
    ++ serde ++ allow ++ deny ++ warn
    ++ inlineLine d.inline
    ++ (if d.cold then ["#[cold]"] else [])
    ++ mustUseLine d.mustUse
    ++ deprecatedLine d.deprecated
    ++ doc

/-- The decoration of an item that has documentation of its own, which counts when the decoration
asks for none. -/
def withDoc (d : Decoration) (doc : Option String) : Decoration :=
  match doc with
  | some text => if d.doc.isSet then d else { d with doc := .str text }
  | none => d

end Decoration

/-- The known trait of that name, else the trait that stands for none. -/
def DeriveTrait.named (name : String) : DeriveTrait :=
  (find? name).getD unnamed

def DeriveTrait.nameOf : Value → String
  | .table [("trait", t)] => (named t.text).name
  | .table [("instance", t)] => (named t.text).name
  | v => v.display

def Attribute.ofDocument (v : Value) : Attribute :=
  .custom (v.textAt "name") (v.itemsAt "args") (v.entriesAt "kwargs")

def Hint.ofDocument : Value → Hint
  | .bool true => .on
  | .str s => .text s
  | _ => .off

def Deprecation.ofDocument : Value → Deprecation
  | .bool true => .plain
  | .table [] => .off
  | .table entries =>
    .noted ((Table.get? entries "since").map Value.display)
      ((Table.get? entries "note").map Value.display)
  | _ => .off

namespace Decoration

def textIfSet (v : Value) : String :=
  if v.isSet then v.display else ""

def ofDocument (v : Value) : Decoration :=
  { custom := (v.itemsAt "attrs").map Attribute.ofDocument
    cfg := textIfSet (v.get "cfg")
    cfgAttr := (v.get "cfg_attr").plain
    derives := (((v.get "derive").parts?).getD []).map DeriveTrait.nameOf
    repr := textIfSet (v.get "repr")
    serde := (v.get "serde").plain
    allow := (v.get "allow").plain
    deny := (v.get "deny").plain
    warn := (v.get "warn").plain
    inline := .ofDocument (v.get "inline")
    cold := v.isSetAt "cold"
    mustUse := .ofDocument (v.get "must_use")
    deprecated := .ofDocument (v.get "deprecated").plain
    doc := (v.get "doc").plain }

end Decoration

/-- The options of a class of attributes, or of a decoration as a whole. -/
def Attribute.optionsOf? (kind : String) : Option (List String) :=
  [("Repr", ["args", "repr_type"]), ("Allow", ["args", "lints"]), ("Deny", ["args", "lints"]),
   ("Warn", ["args", "lints"]), ("Cfg", ["args", "condition"]),
   ("CfgAttr", ["args", "condition", "attributes"]), ("Inline", ["args", "mode"]),
   ("Cold", ["args"]), ("Doc", ["args", "content"]), ("MustUse", ["args", "message"]),
   ("Deprecated", ["args", "since", "note"]), ("SerdeAttr", ["args", "options"]),
   ("rust", ["derive", "repr", "serde", "allow", "deny", "warn", "cfg", "cfg_attr", "inline",
     "cold", "must_use", "deprecated", "doc", "attrs"])].lookup kind

/-- The attribute of a class of attributes with the values of its options. -/
def Attribute.ofClass (kind : String) (v : Value) : Except DecorationError Attribute :=
  let text (key : String) : String := ((v.field? key).map Value.display).getD ""
  let ofValue (name key : String) (default : Value) : Attribute :=
    .ofValue name ((v.field? key).getD default).plain
  match kind with
  | "Repr" => .ok (ofValue "repr" "repr_type" (.str "Rust"))
  | "Allow" | "Deny" | "Warn" => .ok (ofValue (Text.lowerAscii kind) "lints" (.list []))
  | "Cfg" => .ok (ofValue "cfg" "condition" (.str ""))
  | "CfgAttr" => .ok ⟨"cfg_attr", .text (text "condition" ++ ", " ++ text "attributes")⟩
  | "Inline" => .ok (ofText? "inline" (v.textAt? "mode"))
  | "Cold" => .ok ⟨"cold", .none⟩
  | "MustUse" => .ok (mustUse (v.textAt? "message"))
  | "Doc" => .ok (doc (text "content"))
  | "Deprecated" =>
    .ok (deprecated (Decoration.textIfSet (v.get "since")) (Decoration.textIfSet (v.get "note")))
  | _ =>
    match (v.get "options").plain with
    | .table options => .ok (serde options)
    | options => if options.isSet then .error .optionsNotNamed else .ok (serde [])

end Oxidize
