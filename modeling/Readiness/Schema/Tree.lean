import Readiness.Schema.Decoder
import Readiness.Value.Json

/-!
# Written records

The way back from a model to a document. A tree keeps both names of every field, so that one tree serves all
written forms: by name or by key, with or without the fields that are null. Nulls inside untyped entries are
data and always stay.
-/
namespace Readiness.Schema

inductive Tree
  | leaf (v : Value)
  | untyped (fields : Fields)
  | list (items : List Tree)
  | record (fields : List (FieldName × Tree))
deriving Inhabited

structure Form where
  byKey : Bool := true
  withoutNull : Bool := false
deriving DecidableEq

/-- Every field under its key. -/
def Form.full : Form := {}

/-- `to_manifest`: by key, without null fields. -/
def Form.manifest : Form := { withoutNull := true }

namespace Tree

def isNull : Tree → Bool
  | .leaf .null => true
  | _ => false

def ofOption {α : Type} (f : α → Tree) : Option α → Tree
  | none => .leaf .null
  | some a => f a

def ofText (t : Text) : Tree := .leaf (.str t)

def ofNat (n : Nat) : Tree := .leaf (.int n)

def ofTexts (pairs : List (Text × Text)) : Tree :=
  .untyped (pairs.map fun p => (p.1, .str p.2))

mutual
/-- `model_dump`: write a tree; only untyped entries can stand in the way. -/
def render (form : Form) : Tree → Except Unwritable Value
  | .leaf v => .ok v
  | .untyped fs => fs.portable
  | .list ts => (renderItems form ts).map .list
  | .record fs => (renderFields form fs).map .map

def renderItems (form : Form) : List Tree → Except Unwritable (List Value)
  | [] => .ok []
  | t :: ts => do
    let v ← render form t
    let vs ← renderItems form ts
    pure (v :: vs)

def renderFields (form : Form) : List (FieldName × Tree) → Except Unwritable Entries
  | [] => .ok []
  | (f, t) :: fs => do
    let v ← render form t
    let es ← renderFields form fs
    if form.withoutNull && t.isNull then pure es
    else pure ((.str ((if form.byKey then f.key else f.name : String) : Text), v) :: es)
end

end Tree

end Readiness.Schema
