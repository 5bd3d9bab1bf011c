import Readiness.Yaml.Merge
import Readiness.Yaml.Scalar

/-!
# Filling collections

A collection is taken as a value as soon as it is met, and it is filled when all that was met before it has been filled.
Of several faults in a document the first one in this order is found. What a collection is filled with are scalars and
links to other collections.
-/
namespace Readiness.Yaml

/-- Types whose values are filled after they are met. -/
def Tag.isCollection : Tag → Bool
  | .seq | .map | .set | .omap | .pairs => true
  | _ => false

/-- Types whose values are read off a text. -/
def Tag.isScalar : Tag → Bool
  | .null | .bool | .int | .float | .binary | .timestamp | .str => true
  | _ => false

/-- The text of a scalar, or of a mapping that has one under the key `=`. No way to a text is longer than the nodes
are many. -/
def Nodes.textOf (ns : Nodes) : Nat → Nat → Except Fault Text
  | 0, _ => .error (.scalar .endless)
  | fuel + 1, i =>
    match ns[i]? with
    | some ⟨_, .scalar s⟩ => .ok s
    | some ⟨_, .mapping es⟩ =>
      match es.find? fun e => ns.hasTag .value e.1 with
      | some e => ns.textOf fuel e.2
      | none => .error .malformed
    | _ => .error .malformed

/-- A document whose collections are being filled: the nodes with the merges carried out so far, the value of each node
that has been met, the collections that have been filled, and those that have only been met, the last one first. -/
structure Filling where
  nodes : Nodes
  met : Array (Option Value)
  filled : Array Value
  waiting : List Nat := []

abbrev Filler := StateT Filling (Except Fault)

namespace Filler

/-- `construct_scalar`: the value of a node that is no collection. -/
def scalar (ns : Nodes) (i : Nat) (n : Node) : Except Fault Value := do
  if !n.tag.isScalar then throw Fault.malformed
  let t ← ns.textOf (ns.size + 1) i
  match n.tag, n.content with
  | .timestamp, .mapping _ => throw (Fault.scalar .mappingForTime)
  | tag, _ => Scalar.value tag t

/-- `construct_object`: the value of a node: a scalar, or a link to a collection. -/
def meet (i : Nat) : Filler Value := do
  let s ← get
  match s.met[i]?.join, s.nodes[i]? with
  | some v, _ => pure v
  | none, some n =>
    if n.tag.isCollection then
      set { s with met := s.met.setIfInBounds i (some (.link i)), waiting := i :: s.waiting }
      pure (.link i)
    else
      let v ← scalar s.nodes i n
      set { s with met := s.met.setIfInBounds i (some v) }
      pure v
  | none, none => throw Fault.malformed

def isLink : Value → Bool
  | .link _ => true
  | _ => false

/-- What tells the number at a node from others that are none: all `.nan` are one, and no other is like them. -/
def nanOf (ns : Nodes) (i : Nat) (v : Value) : Option Nat :=
  match v with
  | .float x =>
    if !x.isNaN then none
    else match ns.textOf (ns.size + 1) i with
      | .ok t => if Scalar.isNan t then some ns.size else some i
      | .error _ => none
  | _ => none

/-- Set the value of a key, which is told from others as `nanOf` says where it is no number. -/
def putKey (nan : Option Nat) (k v : Value) :
    List (Option Nat × Value × Value) → List (Option Nat × Value × Value)
  | [] => [(nan, k, v)]
  | (m, l, w) :: es =>
    if l.sameKey k ∧ m = nan then (m, l, v) :: es else (m, l, w) :: putKey nan k v es

/-- The entries of a mapping, the last value of a key being the one that counts. Collections cannot be keys. -/
def entries : List (Nat × Nat) → List (Option Nat × Value × Value) → Filler Entries
  | [], found => pure (found.map Prod.snd)
  | e :: es, found => do
    let k ← meet e.1
    if isLink k then throw Fault.malformed
    let v ← meet e.2
    entries es (putKey (nanOf (← get).nodes e.1 k) k v found)

/-- `construct_mapping`: the entries of a mapping after its merges; the fuel is that of `Nodes.mergeAll`. -/
def mapping (fuel i : Nat) : Filler Entries := do
  let s ← get
  if (s.nodes.entries? i).isNone then throw Fault.malformed
  let ns ← s.nodes.mergeAll fuel i
  set { s with nodes := ns }
  entries ((ns.entries? i).getD []) []

/-- A pair, written as a mapping of one entry. -/
def pair (i : Nat) : Filler Value := do
  match (← get).nodes.entries? i with
  | some [e] =>
    let k ← meet e.1
    let v ← meet e.2
    pure (.tuple [k, v])
  | _ => throw Fault.malformed

/-- The value of a collection, with links in it. -/
def contents (fuel i : Nat) : Filler Value := do
  match (← get).nodes[i]? with
  | some ⟨.seq, .sequence items⟩ => Value.list <$> items.mapM meet
  | some ⟨.omap, .sequence items⟩ | some ⟨.pairs, .sequence items⟩ => Value.list <$> items.mapM pair
  | some ⟨.map, _⟩ => Value.map <$> mapping fuel i
  | some ⟨.set, _⟩ => return .set ((← mapping fuel i).map Prod.fst)
  | _ => throw Fault.malformed

/-- Fill a collection. -/
def fill (fuel i : Nat) : Filler Unit := do
  let v ← contents fuel i
  modify fun s => { s with filled := s.filled.setIfInBounds i v }

/-- Fill what waits, until nothing does; no collection waits twice. -/
def fillAll (mergeFuel : Nat) : Nat → Filler Unit
  | 0 => pure ()
  | fuel + 1 => do
    let round := (← get).waiting.reverse
    if round.isEmpty then pure ()
    else
      modify fun s => { s with waiting := [] }
      round.forM (fill mergeFuel)
      fillAll mergeFuel fuel

end Filler

end Readiness.Yaml
