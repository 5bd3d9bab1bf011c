import Readiness.Condition.Basic

/-!
# Condition sets

A declaration says which conditions are tracked: one *happy* condition and those it depends on. Marking a dependent
carries over to the happy condition: it is true once every dependent is true, false when one fails, and unknown when
one becomes unknown and none has failed.

Operations write several conditions one after another. A write that is refused ends the operation, and the
writes before it stand.

Condition sets are the declarations that `create` makes of any names. The operations do not rely on it. Names are
strings of characters, as types of conditions are; declarations of names with halves of characters, under which no
condition can be recorded, are left out.
-/
namespace Readiness

open Calendar Schema

/-- What is tracked, as it was listed. -/
structure Declaration where
  happy : String
  dependents : List String
deriving DecidableEq

/-- `ConditionSet`: the happy condition is not one of its dependents, and no dependent is listed twice. -/
structure ConditionSet extends Declaration where
  happy_notMem : happy ∉ dependents
  nodup : dependents.Nodup
deriving DecidableEq

instance : Coe ConditionSet Declaration := ⟨ConditionSet.toDeclaration⟩

/-- Why an operation on conditions is refused. -/
inductive Refusal
  | invalid (r : Rejection)
  | terminal (type : String)
deriving DecidableEq, Repr

def Refusal.message : Refusal → String
  | .invalid r => r.message
  | .terminal t => s!"Cannot clear terminal condition: {t}"

/-- The conditions after an operation, and what stopped it. -/
structure Outcome where
  conditions : Conditions
  refusal : Option Refusal := none
deriving DecidableEq

/-- Go on unless the operation was stopped. -/
def Outcome.andThen (o : Outcome) (next : Conditions → Outcome) : Outcome :=
  match o.refusal with
  | none => next o.conditions
  | some _ => o

namespace ConditionSet

/-- The type of the happy condition of long-lived resources. -/
def ready : String := "Ready"

/-- Add a dependent that is new and not the happy type. -/
def addDependent (happy : String) (deps : List String) (d : String) : List String :=
  if d = happy ∨ d ∈ deps then deps else deps ++ [d]

theorem notMem_addDependent {happy d : String} {deps : List String} (h : happy ∉ deps) :
    happy ∉ addDependent happy deps d := by
  unfold addDependent
  split
  · exact h
  · rename_i hd
    simp only [not_or] at hd
    simp [h, Ne.symm hd.1]

theorem nodup_addDependent {happy d : String} {deps : List String} (h : deps.Nodup) :
    (addDependent happy deps d).Nodup := by
  unfold addDependent
  split
  · exact h
  · rename_i hd
    simp only [not_or] at hd
    rw [List.nodup_append]
    refine ⟨h, by simp, ?_⟩
    intro a ha b hb
    simp only [List.mem_singleton] at hb
    rintro rfl
    exact hd.2 (hb ▸ ha)

theorem foldl_addDependent (happy : String) (names deps : List String)
    (h : happy ∉ deps) (hn : deps.Nodup) :
    happy ∉ names.foldl (addDependent happy) deps ∧ (names.foldl (addDependent happy) deps).Nodup := by
  induction names generalizing deps with
  | nil => exact ⟨h, hn⟩
  | cons n ns ih => exact ih _ (notMem_addDependent h) (nodup_addDependent hn)

/-- `create`: the happy type and repetitions are dropped from the dependents. -/
def create (happy : String) (names : List String) : ConditionSet where
  happy := happy
  dependents := names.foldl (addDependent happy) []
  happy_notMem := (foldl_addDependent happy names [] (by simp) (by simp)).1
  nodup := (foldl_addDependent happy names [] (by simp) (by simp)).2

/-- `living`: the set of a long-lived resource. -/
def living (names : List String) : ConditionSet := create ready names

end ConditionSet

namespace Declaration

variable (s : Declaration)

/-- `condition_types`: the happy type first. -/
def types : List String := s.happy :: s.dependents

/-- `is_terminal`: tracked types; they cannot be cleared. -/
def isTerminal (type : String) : Bool := type = s.happy ∨ type ∈ s.dependents

/-- `severity`: what a type matters in this set. -/
def severityOf (type : String) : Severity := if s.isTerminal type then .error else .info

/-- `is_happy`: whether the happy condition is true. -/
def isHappy (cs : Conditions) : Bool := cs.holds s.happy

/-- Write one condition, with the severity that its type has in this set. -/
def write (now : DateTime) (type : String) (status : Status) (reason message : Text)
    (cs : Conditions) : Outcome :=
  match Condition.build type status (s.severityOf type) reason message with
  | .ok c => ⟨cs.set now c, none⟩
  | .error r => ⟨cs, some (.invalid r)⟩

/-- `_mark_happy_if_all_true`: make the happy condition true if every dependent is. -/
def raiseHappy (now : DateTime) (cs : Conditions) : Outcome :=
  if s.dependents.all cs.holds then s.write now s.happy .yes "" "" cs else ⟨cs, none⟩

/-- `mark_true`: a dependent may be the last one that the happy condition waits for. -/
def markTrue (now : DateTime) (type : String) (cs : Conditions) : Outcome :=
  (s.write now type .yes "" "" cs).andThen (s.raiseHappy now)

/-- `mark_true_with_reason`: as `markTrue`, with words of its own. -/
def markTrueWith (now : DateTime) (type : String) (reason message : Text) (cs : Conditions) : Outcome :=
  (s.write now type .yes reason message cs).andThen (s.raiseHappy now)

/-- `mark_false`: a dependent that fails takes the happy condition with it. -/
def markFalse (now : DateTime) (type : String) (reason message : Text) (cs : Conditions) : Outcome :=
  (s.write now type .no reason message cs).andThen fun cs =>
    if type ≠ s.happy ∧ s.isTerminal type then s.write now s.happy .no reason message cs
    else ⟨cs, none⟩

/-- `mark_unknown`: a failed dependent outweighs an unknown one. -/
def markUnknown (now : DateTime) (type : String) (reason message : Text) (cs : Conditions) : Outcome :=
  (s.write now type .unknown reason message cs).andThen fun cs =>
    if s.dependents.any cs.fails then
      if cs.fails s.happy then ⟨cs, none⟩ else s.markFalse now s.happy reason message cs
    else if type ∈ s.dependents then s.write now s.happy .unknown reason message cs
    else ⟨cs, none⟩

/-- Run a mark with arguments of any kind. Arguments that describe no condition are refused before it writes. -/
def marked (mark : String → Text → Text → Conditions → Outcome) (type reason message : Value)
    (cs : Conditions) : Outcome :=
  match Condition.describe type reason message with
  | .ok c => mark c.type.val c.reason c.message cs
  | .error r => ⟨cs, some (.invalid r)⟩

/-- `clear_condition`: only conditions that are not tracked can be cleared. -/
def clear (type : String) (cs : Conditions) : Outcome :=
  if s.isTerminal type then ⟨cs, some (.terminal type)⟩ else ⟨cs.remove type, none⟩

/-- Clear whatever has a given text as its type. With halves of characters nothing has. -/
def clearNamed (type : Text) (cs : Conditions) : Outcome :=
  match type.toString? with
  | some t => s.clear t cs
  | none => ⟨cs, none⟩

/-- Write a condition unless its type is there. -/
def seed (now : DateTime) (status : Status) (type : String) (cs : Conditions) : Outcome :=
  if cs.has type then ⟨cs, none⟩ else s.write now type status "" "" cs

/-- `initialize_conditions`: seed every tracked type that is missing: the happy one as unknown, and then the dependents
as true if the happy condition is true, otherwise as unknown. -/
def seedMissing (now : DateTime) (cs : Conditions) : Outcome :=
  (s.seed now .unknown s.happy cs).andThen fun seeded =>
    let status := if seeded.holds s.happy then Status.yes else .unknown
    s.dependents.foldl (fun o d => o.andThen (s.seed now status d)) ⟨seeded, none⟩

end Declaration

end Readiness
