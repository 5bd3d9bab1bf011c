import Readiness.Yaml.Filling

/-!
# Documents

The values of the documents of a text. When the collections of a document are filled, their links are replaced by
values, as far as collections do not hold themselves; those that do make up a group.
-/
namespace Readiness.Yaml

/-- Values of collections, as far as they are known. -/
abbrev Settled := Array (Option Value)

namespace Settled

/-- What to put for a link. -/
def link (done : Settled) (i : Nat) : Value := (done[i]?.join).getD (.link i)

/-- Settle each collection whose links are all settled; the others are left. -/
def pass (filled : Array Value) : List Nat → Settled → Settled × List Nat
  | [], done => (done, [])
  | i :: rest, done =>
    let v := filled.getD i .null
    if v.links.all fun j => (done[j]?.join).isSome then
      pass filled rest (done.setIfInBounds i (some (v.relink done.link)))
    else
      let (done, left) := pass filled rest done
      (done, i :: left)

/-- Settle collections until none of those that are left can be settled. -/
def saturate (filled : Array Value) (waiting : List Nat) (done : Settled) : Settled × List Nat :=
  let (done, left) := pass filled waiting done
  if left.length < waiting.length then saturate filled left done else (done, left)
termination_by waiting.length

/-- The value of a node that has been met. What cannot be settled holds itself, or holds what does. -/
def valueOf (filled : Array Value) (done : Settled) (left : List Nat) : Value → Value
  | .link i =>
    match done[i]?.join with
    | some v => v
    | none =>
      let place (j : Nat) : Value := (done[j]?.join).getD (.link (left.idxOf j))
      .loop (left.map fun j => (filled.getD j .null).relink place) (left.idxOf i)
  | v => v

end Settled

/-- `construct_document`: the value of a document. -/
def Graph.value (g : Graph) : Except Fault Value := do
  let n := g.nodes.size
  let start : Filling := { nodes := g.nodes, met := .replicate n none, filled := .replicate n .null }
  let build : Filler Value := do
    let root ← Filler.meet g.root
    Filler.fillAll (3 * Nodes.entryCount g.nodes + 3) (n + 1)
    pure root
  let (root, s) ← build.run start
  let collections := g.order.filter fun i => s.met[i]?.join.any Filler.isLink
  let (done, left) := Settled.saturate s.filled collections (.replicate n none)
  pure (Settled.valueOf s.filled done left root)

/-- The values of the documents that are left, each one built before the next is read. -/
def documentsFrom : Nat → Bool → NodeState → Except Fault (List Value)
  | 0, _, _ => .ok []
  | fuel + 1, first, s =>
    match NodeReader.document (3 * s.tokens.length + 3) first s with
    | .error f => .error f
    | .ok (none, _) => .ok []
    | .ok (some g, s') => do
      let v ← g.value
      let vs ← documentsFrom fuel false s'
      pure (v :: vs)

/-- `load_all`: the values of all documents of a text. -/
def documents (text : Text) : Except Fault (List Value) :=
  let stream := TokenStream.ofText text
  documentsFrom (stream.tokens.length + 1) true
    { tokens := stream.tokens, fault := stream.fault.getD .malformed }

end Readiness.Yaml
