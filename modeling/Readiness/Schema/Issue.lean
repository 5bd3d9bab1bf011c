import Readiness.Value.Display

/-!
# Validation issues

What is wrong with a document, and where. Checking goes on after an issue, so that all of them are reported
together, in the order of the declared fields and of the items.
-/
namespace Readiness.Schema

/-- One step of the way from the top of a document to the place of an issue. -/
inductive Step
  | name (s : String)
  | index (i : Int)
deriving DecidableEq, Repr

/-- The step that a key of a mapping stands for. Small numbers and truth values are shown as numbers. -/
def Step.ofKey : Value → Step
  | .str s => .name s.lossy
  | .bool b => .index (if b then 1 else 0)
  | .int n => if -.pow 2 63 ≤ n ∧ n < .pow 2 63 then .index n else .name (Value.int n).display
  | v => .name v.display

inductive Fault
  | missing
  | notText
  | undecodableText
  | tooShort (least : Nat)
  | tooLong (most : Nat)
  | notWhole
  | unreadableWhole
  | oversizedWhole
  | fractional
  | notFinite
  | negative
  | notList
  | notMapping
  | notRecord (model : String)
  | notOneOf (first : String) (between : List String) (last : String)
  | notTime
  | unreadableTime
  | unreadableDay
deriving DecidableEq, Repr

/-- The stable name of a fault. -/
def Fault.code : Fault → String
  | .missing => "missing"
  | .notText => "string_type"
  | .undecodableText => "string_unicode"
  | .tooShort _ => "string_too_short"
  | .tooLong _ => "string_too_long"
  | .notWhole => "int_type"
  | .unreadableWhole => "int_parsing"
  | .oversizedWhole => "int_parsing_size"
  | .fractional => "int_from_float"
  | .notFinite => "finite_number"
  | .negative => "greater_than_equal"
  | .notList => "list_type"
  | .notMapping => "dict_type"
  | .notRecord _ => "model_type"
  | .notOneOf .. => "enum"
  | .notTime => "datetime_type"
  | .unreadableTime => "datetime_parsing"
  | .unreadableDay => "datetime_from_date_parsing"

def countedCharacters (n : Nat) : String := if n = 1 then "1 character" else s!"{n} characters"

/-- The wording of a fault. Faults of points in time have no fixed wording. -/
def Fault.message : Fault → Option String
  | .missing => some "Field required"
  | .notText => some "Input should be a valid string"
  | .undecodableText => some "Input should be a valid string, unable to parse raw data as a unicode string"
  | .tooShort n => some s!"String should have at least {countedCharacters n}"
  | .tooLong n => some s!"String should have at most {countedCharacters n}"
  | .notWhole => some "Input should be a valid integer"
  | .unreadableWhole => some "Input should be a valid integer, unable to parse string as an integer"
  | .oversizedWhole => some "Unable to parse input string as an integer, exceeded maximum size"
  | .fractional => some "Input should be a valid integer, got a number with a fractional part"
  | .notFinite => some "Input should be a finite number"
  | .negative => some "Input should be greater than or equal to 0"
  | .notList => some "Input should be a valid list"
  | .notMapping => some "Input should be a valid dictionary"
  | .notRecord model => some s!"Input should be a valid dictionary or instance of {model}"
  | .notOneOf first between last =>
    let choices := ", ".intercalate ((first :: between).map fun (s : String) => Text.displayed s)
    some s!"Input should be {choices} or {Text.displayed last}"
  | .notTime | .unreadableTime | .unreadableDay => none

structure Issue where
  path : List Step
  fault : Fault
deriving DecidableEq, Repr

/-- All issues of one document of a model. -/
structure Rejection where
  model : String
  issues : List Issue
deriving DecidableEq, Repr

def Rejection.message (r : Rejection) : String :=
  let n := r.issues.length
  let noun := if n = 1 then "error" else "errors"
  s!"{n} validation {noun} for {r.model}"

end Readiness.Schema
