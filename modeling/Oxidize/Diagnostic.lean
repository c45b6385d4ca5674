import Oxidize.Data.Value

/-!
# Errors that are reported to the user

A report says what is wrong with a program; a diagnostic says where. A log records decisions, each a
kind with details, and counts events.
-/

namespace Oxidize

inductive Report where
  | general (message : String)
  | parse (message : String)
  /-- A type annotation is missing or cannot be understood; `name` is what it annotates. -/
  | typing (message : String) (name : Option String)
  | unsupported (feature : String) (suggestion : Option String)
  | codegen (message : String)

namespace Report

/-- The class of errors that a report belongs to. -/
def className : Report → String
  | .general _ => "CrabpyError"
  | .parse _ => "ParseError"
  | .typing _ _ => "TypeAnnotationError"
  | .unsupported _ _ => "UnsupportedFeatureError"
  | .codegen _ => "CodegenError"

def nonempty (text : Option String) : Option String :=
  text.filter (· != "")

/-- The message of a report. An annotation's name stands before the message, unless the message
already speaks of something missing. -/
def message : Report → String
  | .general m => m
  | .parse m => m
  | .typing m name =>
    match nonempty name with
    | some n => if Text.contains (Text.lowerAscii m) "missing" then m else s!"'{n}': {m}"
    | none => m
  | .unsupported feature suggestion =>
    s!"Unsupported Python feature: {feature}" ++
      (match nonempty suggestion with
       | some s => s!". {s}"
       | none => "")
  | .codegen m => m

end Report

structure Diagnostic where
  report : Report
  filename : Option String := none
  line : Option Int := none

namespace Diagnostic

def placeParts (d : Diagnostic) : List String :=
  (Report.nonempty d.filename).toList ++ (d.line.map fun n => s!"line {n}").toList

def text (d : Diagnostic) : String :=
  let parts := d.placeParts
  if parts.isEmpty then d.report.message
  else Text.join ":" parts ++ ": " ++ d.report.message

end Diagnostic

/-- A place in a file: a name, a line and a column, each possibly unknown. -/
structure SourcePlace where
  filename : Option String := none
  line : Option Int := none
  column : Option Int := none

namespace SourcePlace

/-- The place as `name:line:column`, as far as it is known. A column without a line is not
written. -/
def text (p : SourcePlace) : String :=
  let column := match p.column with
    | some c => s!":{c}"
    | none => ""
  let parts := (Report.nonempty p.filename).toList ++
    (p.line.map fun n => s!"{n}{column}").toList
  if parts.isEmpty then "<unknown>" else Text.join ":" parts

end SourcePlace

structure LogRecord where
  operation : String
  name : String
  /-- The decisions, oldest first, each with its kind under `type`. -/
  decisions : List (Table Value) := []
  counters : Table Int := []

structure Log where
  record? : Option LogRecord := none

namespace Log

def off : Log := {}

def start (operation name : String) : Log :=
  { record? := some { operation, name } }

def isOn (log : Log) : Bool :=
  log.record?.isSome

def decide (log : Log) (kind : String) (details : Table Value) : Log :=
  { record? := log.record?.map fun r =>
      { r with decisions := r.decisions ++ [Table.update [("type", .str kind)] details] } }

def count (log : Log) (counter : String) (amount : Int := 1) : Log :=
  { record? := log.record?.map fun r =>
      { r with counters := r.counters.set counter ((r.counters.get? counter).getD 0 + amount) } }

end Log

namespace LogRecord

def toValue (r : LogRecord) (time? : Option String := none) : Value :=
  .table <|
    [("version", .str "1.0")] ++ time?.toList.map (fun time => ("timestamp", .str time)) ++
    [("operation", .str r.operation), ("name", .str r.name),
     ("summary", .table (r.counters.map fun (k, n) => (k, .int n))),
     ("decisions", .list (r.decisions.map .table))]

end LogRecord

end Oxidize
