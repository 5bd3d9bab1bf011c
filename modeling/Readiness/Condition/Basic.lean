import Readiness.Schema.Tree

/-!
# Conditions

A condition is a named health signal with three states. Lists of conditions are kept sorted by type by the
operations below, but nothing here relies on it: stored lists may hold any order and several conditions of one
type, and then the first one of a type is the one that counts.
-/
namespace Readiness

open Calendar Schema

/-- Every change between the three states is allowed. -/
inductive Status
  | yes
  | no
  | unknown
deriving DecidableEq, Repr

def Status.text : Status → String
  | .yes => "True"
  | .no => "False"
  | .unknown => "Unknown"

/-- How much a condition matters that is not `yes`: tracked ones are errors, others are informational. -/
inductive Severity
  | error
  | warning
  | info
deriving DecidableEq, Repr

def Severity.text : Severity → String
  | .error => ""
  | .warning => "Warning"
  | .info => "Info"

/-- The name of a condition. -/
abbrev ConditionType := Decoder.BoundedText 1 316

/-- `Condition`: a named signal. -/
structure Condition where
  type : ConditionType
  status : Status := .unknown
  severity : Severity := .error
  transition : Option DateTime := none
  reason : Text := ""
  message : Text := ""
deriving DecidableEq

namespace Condition

def typeField : FieldName := ⟨"type", "type"⟩
def statusField : FieldName := ⟨"status", "status"⟩
def severityField : FieldName := ⟨"severity", "severity"⟩
def transitionField : FieldName := ⟨"last_transition_time", "lastTransitionTime"⟩
def reasonField : FieldName := ⟨"reason", "reason"⟩
def messageField : FieldName := ⟨"message", "message"⟩

def decodeType : Decoder ConditionType := Decoder.boundedText 1 316

/-- Truth values stand for the states they name. -/
def decodeStatus : Decoder Status := fun v =>
  match v with
  | .bool b => .accepted (if b then .yes else .no)
  | v => Decoder.oneOf ("True", .yes) [("False", .no)] ("Unknown", .unknown) v

def decodeSeverity : Decoder Severity :=
  Decoder.oneOf ("", .error) [("Warning", .warning)] ("Info", .info)

def decode : Decoder Condition := record "Condition" fun es =>
  Condition.mk <$> typeField.require es decodeType
    <*> statusField.decode es decodeStatus .unknown
    <*> severityField.decode es decodeSeverity .error
    <*> transitionField.decode es (Decoder.optional Decoder.time) none
    <*> reasonField.decode es Decoder.text ""
    <*> messageField.decode es Decoder.text ""

def tree (c : Condition) : Tree := .record [
  (typeField, .ofText c.type.val),
  (statusField, .ofText c.status.text),
  (severityField, .ofText c.severity.text),
  (transitionField, .ofOption (fun t => .ofText (t.iso .wire)) c.transition),
  (reasonField, .ofText c.reason),
  (messageField, .ofText c.message)]

/-- `_build`: a condition as a caller describes it; only the name can be refused. -/
def build (type : String) (status : Status) (severity : Severity) (reason message : Text) :
    Except Rejection Condition :=
  let checked := (Decoder.checkLength 1 316 type).within (.name typeField.key)
  (checked.map fun t => ⟨t, status, severity, none, reason, message⟩).toExcept "Condition"

/-- The condition that a type, a reason and a message describe, whatever they are given as. -/
def describe (type reason message : Value) : Except Rejection Condition :=
  let given : Entries := [(.str typeField.key, type), (.str reasonField.key, reason), (.str messageField.key, message)]
  (decode (.map given)).toExcept "Condition"

/-- Alike but for the time of the last change. -/
def sameContent (c d : Condition) : Bool := { c with transition := d.transition } = d

end Condition

/-- Stored conditions, in stored order. -/
abbrev Conditions := List Condition

namespace Conditions

/-- `get_condition`: the first condition of a type. -/
def get? (cs : Conditions) (type : String) : Option Condition :=
  cs.find? fun c => c.type.val = type

def statusOf? (cs : Conditions) (type : String) : Option Status := (cs.get? type).map (·.status)

def has (cs : Conditions) (type : String) : Bool := (cs.get? type).isSome

/-- The condition is there and true. -/
def holds (cs : Conditions) (type : String) : Bool := cs.statusOf? type = some .yes

/-- The condition is there and false. -/
def fails (cs : Conditions) (type : String) : Bool := cs.statusOf? type = some .no

/-- Put a condition in front of the first one whose type is not smaller. -/
def insert (c : Condition) : Conditions → Conditions
  | [] => [c]
  | d :: ds => if c.type.val ≤ d.type.val then c :: d :: ds else d :: insert c ds

/-- Sort by type; conditions of one type keep their order. -/
def sort : Conditions → Conditions
  | [] => []
  | c :: cs => insert c (sort cs)

/-- `set_condition`: record a condition at a time. Where a stored condition of its type has the same content already,
nothing changes at all; otherwise it takes the place of every condition of its type and is stamped with the time, to the
second. -/
def set (now : DateTime) (c : Condition) (cs : Conditions) : Conditions :=
  if cs.any fun d => d.type = c.type ∧ c.sameContent d then cs
  else sort (cs.filter (fun d => d.type ≠ c.type) ++ [{ c with transition := some now.truncated }])

def remove (type : String) (cs : Conditions) : Conditions := cs.filter fun c => c.type.val ≠ type

end Conditions

end Readiness
