import Readiness.Sequence.Spec
import Readiness.Sequence.Status

/-!
# Sequences

A sequence resource: its identity, the spec that was asked for, and the status that was derived.
-/
namespace Readiness

open Schema

structure Sequence where
  identity : Identity := {}
  spec : SequenceSpec := {}
  status : SequenceStatus := {}
deriving DecidableEq

namespace Sequence

/-- A sequence that was just created has a null status. -/
def decode : Decoder Sequence := record "Sequence" fun es =>
  Sequence.mk <$> Identity.ofEntries es
    <*> specField.decode es SequenceSpec.decode {}
    <*> statusField.decode es (orEmpty SequenceStatus.decode) {}

def tree (s : Sequence) : Tree := .record (s.identity.fields ++ [
  (specField, s.spec.tree),
  (statusField, s.status.tree)])

/-- `get_untyped_spec`: the spec as plain entries, for tools that do not know its type. -/
def untypedSpec (s : Sequence) : Except Unwritable Value := s.spec.tree.render .manifest

/-- Change the status. -/
def mapStatus (f : SequenceStatus → SequenceStatus) (s : Sequence) : Sequence :=
  { s with status := f s.status }

end Sequence

end Readiness
