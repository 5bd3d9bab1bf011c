import Readiness.Yaml.Fault
import Readiness.Yaml.Node

/-!
# Merges

An entry with the key `<<` brings the entries of another mapping into its own, or those of several mappings. The entries
that a mapping merges in are put in front of the others, of several mappings those of the last one first, and so the
nearest one counts where a key comes twice.

A mapping can merge itself in, in one step or in several. What it brings in then are the entries that are left of it at
that moment, and its other merges are carried out before.
-/
namespace Readiness.Yaml

/-- The nodes of a document while merges are carried out. -/
abbrev Nodes := Array Node

namespace Nodes

def hasTag (ns : Nodes) (t : Tag) (i : Nat) : Bool := ns[i]?.any fun n => n.tag = t

/-- The entries of a mapping. -/
def entries? (ns : Nodes) (i : Nat) : Option (List (Nat × Nat)) :=
  match ns[i]? with
  | some ⟨_, .mapping es⟩ => some es
  | _ => none

def setEntries (i : Nat) (es : List (Nat × Nat)) (ns : Nodes) : Nodes :=
  ns.modify i fun n => { n with content := .mapping es }

/-- The key `=` of a mapping is a text like others. -/
def plainKeys (es : List (Nat × Nat)) (ns : Nodes) : Nodes :=
  es.foldl (fun ns e => if ns.hasTag .value e.1 then ns.modify e.1 fun n => { n with tag := .str } else ns) ns

/-- Take the first merge out of the entries of a mapping: the node that it names, and the entries without it. -/
def takeMerge? (ns : Nodes) : List (Nat × Nat) → Option (Nat × List (Nat × Nat))
  | [] => none
  | e :: es =>
    if ns.hasTag .merge e.1 then some (e.2, es)
    else (takeMerge? ns es).map fun found => (found.1, e :: found.2)

mutual
/-- `flatten_mapping`: carry out the merges of mapping `i`; the fuel bounds the merges that are left, each of which
takes three. -/
def mergeAll : Nat → Nat → Nodes → Except Fault Nodes
  | 0, _, ns => .ok ns
  | fuel + 1, i, ns => do
    let (merged, ns) ← gather fuel i [] ns
    let own := (ns.entries? i).getD []
    let ns := ns.plainKeys own
    pure (if merged.isEmpty then ns else ns.setEntries i (merged ++ own))

/-- The entries that the merges of mapping `i` bring in, after those that were found before. -/
def gather : Nat → Nat → List (Nat × Nat) → Nodes → Except Fault (List (Nat × Nat) × Nodes)
  | 0, _, found, ns => .ok (found, ns)
  | fuel + 1, i, found, ns =>
    match ns.takeMerge? ((ns.entries? i).getD []) with
    | none => .ok (found, ns)
    | some (j, others) => do
      let (more, ns) ← source fuel j (ns.setEntries i others)
      gather fuel i (found ++ more) ns

/-- The entries that one merge brings in, from a mapping or from a sequence of them. -/
def source : Nat → Nat → Nodes → Except Fault (List (Nat × Nat) × Nodes)
  | 0, _, ns => .ok ([], ns)
  | fuel + 1, j, ns =>
    match ns[j]? with
    | some ⟨_, .mapping _⟩ => do
      let ns ← mergeAll fuel j ns
      pure ((ns.entries? j).getD [], ns)
    | some ⟨_, .sequence items⟩ =>
      items.foldlM (fun (found, ns) k =>
        if (ns.entries? k).isSome then do
          let ns ← mergeAll fuel k ns
          pure ((ns.entries? k).getD [] ++ found, ns)
        else throw Fault.malformed) (([] : List (Nat × Nat)), ns)
    | _ => .error .malformed
end

/-- The number of entries of all mappings. -/
def entryCount (ns : Nodes) : Nat :=
  ns.foldl (fun n node => match node.content with
    | .mapping es => n + es.length
    | _ => n) 0

end Nodes

end Readiness.Yaml
