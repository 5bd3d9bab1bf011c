import Readiness.Calendar.Iso
import Readiness.Log.Record
import Readiness.Value.Json

/-!
# Log lines

Two ways to write a record: as one line of JSON for machines, and as a line for people.
-/
namespace Readiness.Log

open Calendar

/-- Where in a program a record was made. -/
structure Origin where
  path : Text
  line : Int
  function : Option Text := none
deriving DecidableEq, Repr

/-- The part of a path after its last slash. -/
def Origin.file (o : Origin) : Text :=
  ⟨(o.path.points.reverse.takeWhile fun c => c ≠ .ofChar '/').reverse⟩

/-- A failure that a record reports. -/
structure Failure where
  kind : Text
  message : Text
deriving DecidableEq, Repr

def Failure.text (f : Failure) : Text := if f.message = "" then f.kind else f.kind ++ ": " ++ f.message

/-- A record with all that is written of it. -/
structure Entry where
  record : Record
  origin : Origin
  failure : Option Failure := none

/-- Which parts a structured line has beside its message and source. -/
structure StructuredOptions where
  timestamp : Bool := true
  level : Bool := true
  logger : Bool := true
  context : Bool := true
deriving DecidableEq, Repr

/-- A field if there is reason for it. -/
def fieldIf (present : Bool) (name : Text) (v : Value) : Fields := if present then [(name, v)] else []

def Origin.toValue (o : Origin) : Value := Fields.toValue [
  ("file", .str o.file),
  ("line", .int o.line),
  ("function", o.function.elim .null fun s => .str s)]

/-- Why there is no line for a record: a value in it cannot be written, or the context cannot be copied. -/
inductive LineFault
  | value (f : Unprintable)
  | context (f : Uncopied)
deriving DecidableEq

namespace LineFault

def message : LineFault → String
  | .value f => f.message
  | .context f => f.message

def ofWriting {α : Type} : Except Unprintable α → Except LineFault α
  | .ok a => .ok a
  | .error f => .error (.value f)

end LineFault

/-- The fields of a structured line. Context and data stand only if there is something in them. -/
def structuredFields (o : StructuredOptions) (now : DateTime) (c : Context) (e : Entry) : Fields :=
  fieldIf o.timestamp "timestamp" (.str now.stamp)
    ++ fieldIf o.level "level" (.str e.record.level.name)
    ++ fieldIf o.logger "logger" (.str e.record.logger)
    ++ ([("message", .str e.record.message)] : Fields)
    ++ fieldIf (o.context && !c.entries.isEmpty) "context" (.map c.entries)
    ++ fieldIf e.record.extra.isSome "data" e.record.extra
    ++ fieldIf e.failure.isSome "exception" (.str (e.failure.elim "" Failure.text))
    ++ ([("source", e.origin.toValue)] : Fields)

/-- `StructuredFormatter.format`. The context is copied where it is wanted, and that may fail before anything is
written. -/
def structuredLine (o : StructuredOptions) (now : DateTime) (c : Context) (e : Entry) : Except LineFault String :=
  match if o.context then c.fields else .ok [] with
  | .ok _ => LineFault.ofWriting (structuredFields o now c e).toValue.jsonText
  | .error f => .error (.context f)

/-- Fill up with spaces on the right. -/
def padRight (width : Nat) (s : String) : String :=
  s ++ String.ofList (List.replicate (width - s.length) ' ')

/-- The text of a value after its name, if there is reason for it. -/
def tagPart (present : Bool) (name : Text) (v : Value) : Except Unprintable (List Text) :=
  if present then (Value.printed v.text?).map fun t => [name ++ t] else .ok []

/-- The context in brackets: namespace and sequence unless they are empty, the stage unless it is null. -/
def contextTag (c : Context) : Except Unprintable Text := do
  let space ← tagPart (c.named .space).isSome "ns=" (c.named .space)
  let sequence ← tagPart (c.named .sequence).isSome "seq=" (c.named .sequence)
  let stage ← tagPart (c.named .stage ≠ .null) "stage=" (c.named .stage)
  let parts := space ++ sequence ++ stage
  pure (if parts.isEmpty then "" else " [" ++ Text.join ", " parts ++ "]")

/-- `HumanFormatter.format`. Of the context only three fields are looked at, and nothing is copied. -/
def humanLine (now : DateTime) (c : Context) (e : Entry) : Except Unprintable Text := do
  let r := e.record
  let tag ← contextTag c
  let data ← tagPart r.extra.isSome " " r.extra
  let failure : Text := match e.failure with
    | some f => "\n" ++ f.text
    | none => ""
  pure (Text.concat [now.shortStamp, " ", padRight 8 r.level.name, " ", r.logger, tag, ": ", r.message,
    Text.concat data, failure])

/-- How records are written. -/
inductive Format
  | structured
  | human
deriving DecidableEq, Repr

def Format.line (f : Format) (now : DateTime) (c : Context) (e : Entry) : Except LineFault Text :=
  match f with
  | .structured => (structuredLine {} now c e).map Text.ofString
  | .human => LineFault.ofWriting (humanLine now c e)

end Readiness.Log
