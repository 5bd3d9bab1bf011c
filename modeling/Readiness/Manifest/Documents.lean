import Readiness.Yaml.Document

/-!
# Manifest documents

A text holds several documents, and a document may be a list of further ones. What counts are the leaves: the
mappings that are no such list. A list that is among its own items has no leaves, for it goes on without an end.
-/
namespace Readiness.Manifest

/-- A mapping whose kind ends in `List`, as in `InMemoryChannelList`. -/
def isListKind (es : Entries) : Bool :=
  match es.get? "kind" with
  | some (.str s) => (("List" : Text).points).isSuffixOf s.points
  | _ => false

/-- The items of a list document. -/
def listItems? (es : Entries) : Option (List Value) :=
  match (es.get? "items").map Value.expose with
  | some (.list items) => if isListKind es then some items else none
  | _ => none

mutual
/-- No way from a list document to its items, the items of these and so on has more steps, if it has an end. -/
def mostSteps : Value → Nat
  | .map es => if isListKind es then stepsOfItems es + 1 else 1
  | .loop cells _ => stepsOfCells cells + cells.length
  | _ => 0

def stepsOfAll : List Value → Nat
  | [] => 0
  | v :: vs => max (mostSteps v) (stepsOfAll vs)

def stepsOfItems : Entries → Nat
  | [] => 0
  | (k, v) :: es =>
    if k = .str "items" then
      match v with
      | .list items => stepsOfAll items
      | v => mostSteps v
    else stepsOfItems es

def stepsOfCells : List Value → Nat
  | [] => 0
  | .list items :: vs => max (stepsOfAll items) (stepsOfCells vs)
  | v :: vs => max (mostSteps v) (stepsOfCells vs)
end

/-- The leaves of a document, from left to right; items of a list that are no mappings are dropped. -/
def leavesWithin : Nat → Value → Option (List Entries)
  | 0, _ => none
  | fuel + 1, v =>
    match v.expose with
    | .map es =>
      match listItems? es with
      | none => some [es]
      | some items => (items.mapM (leavesWithin fuel)).map List.flatten
    | _ => some []

/-- `_flatten`: the leaves of a document, if it has an end. -/
def leaves? (v : Value) : Option (List Entries) := leavesWithin (mostSteps v + 1) v

inductive DocumentFault
  /-- A document that is neither a mapping nor empty: its place and its kind. -/
  | notMapping (index : Nat) (kind : String)
  /-- A list that is among its own items. -/
  | endless
deriving DecidableEq, Repr

/-- The leaves of all documents, the first of which has a given place. Empty documents are skipped. -/
def leavesOfAll : Nat → List Value → Except DocumentFault (List Entries)
  | _, [] => .ok []
  | i, v :: vs =>
    match v.expose with
    | .null => leavesOfAll (i + 1) vs
    | .map _ =>
      match leaves? v with
      | some found => (leavesOfAll (i + 1) vs).map (found ++ ·)
      | none => .error .endless
    | _ => .error (.notMapping i v.kindName)

end Readiness.Manifest
