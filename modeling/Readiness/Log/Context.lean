import Readiness.Value.Copy

/-!
# Log context

What every record of a block of work carries. Blocks nest: an inner block passes on what the outer ones set, except
for what it sets itself, null included, and its extra entries come on top of theirs.
-/
namespace Readiness.Log

/-- The fields that have a name of their own. -/
inductive ContextKey
  | sequence
  | space
  | stage
  | correlation
  | component
  | operation
deriving DecidableEq, Repr

namespace ContextKey

def name : ContextKey → String
  | .sequence => "sequence"
  | .space => "namespace"
  | .stage => "stage"
  | .correlation => "correlation_id"
  | .component => "component"
  | .operation => "operation"

/-- In the order in which they are written. -/
def all : List ContextKey := [.sequence, .space, .stage, .correlation, .component, .operation]

def ofName? (s : String) : Option ContextKey := all.find? fun k => k.name = s

end ContextKey

/-- `LogContext`: the named fields, null where nothing is said, and the extra entries. -/
structure Context where
  named : ContextKey → Value := fun _ => .null
  extra : Entries := []

namespace Context

/-- What a context says: the named fields that are not null, and then the extra entries, which win. -/
def entries (c : Context) : Entries :=
  let named : Entries := ContextKey.all.map fun k => (.str k.name, c.named k)
  Entries.merge (named.filter fun e => e.2 ≠ .null) c.extra

/-- Everything in a context, in the order in which it is copied. -/
def contents (c : Context) : List Value := ContextKey.all.map c.named ++ [.map c.extra]

/-- `LogContext.to_dict`: the fields to write. There are some only if everything in the context can be copied. -/
def fields (c : Context) : Except Uncopied Entries := (Value.list c.contents).copied.map fun _ => c.entries

end Context

/-- What one block sets. -/
structure Layer where
  passed : ContextKey → Option Value := fun _ => none
  extra : Option Value := none

/-- Set one more named field. -/
def Layer.pass (k : ContextKey) (v : Value) (l : Layer) : Layer :=
  { l with passed := fun j => if j = k then some v else l.passed j }

/-- The extra entries of a block are not a mapping. -/
structure NotMapping where
  kind : String
deriving DecidableEq, Repr

def NotMapping.message (f : NotMapping) : String := s!"'{f.kind}' object is not a mapping"

/-- The extra entries of a block. A mapping that holds itself is one, too. -/
def Layer.extraFields (l : Layer) : Except NotMapping Entries :=
  match l.extra with
  | none => .ok []
  | some v =>
    match v.expose with
    | .map es => .ok es
    | _ => .error ⟨v.qualifiedKind⟩

/-- `log_context`: the context inside a block. -/
def Context.enter (outer : Context) (l : Layer) : Except NotMapping Context := do
  let more ← l.extraFields
  pure ⟨fun k => (l.passed k).getD (outer.named k), outer.extra.merge more⟩

/-- The context inside a block that sets no extra entries. -/
def Context.inside (outer : Context) (l : Layer) : Context :=
  ⟨fun k => (l.passed k).getD (outer.named k), outer.extra⟩

end Readiness.Log
