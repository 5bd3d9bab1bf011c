import Readiness.Defaults
import Readiness.Sequence.Basic

/-!
# Manifest objects

The kind of a document says what it is: a sequence, a subscription, or otherwise a channel of some kind.
-/
namespace Readiness.Manifest

open Schema

inductive Object
  | sequence (s : Sequence)
  | subscription (s : Subscription)
  | channel (c : Channel)
deriving DecidableEq

/-- `ManifestBundle`: the objects of one source, each kind in document order. -/
structure Bundle where
  sequences : List Sequence := []
  channels : List Channel := []
  subscriptions : List Subscription := []
deriving DecidableEq

namespace Bundle

/-- `add`: each object to its own kind. -/
def add (b : Bundle) : Object → Bundle
  | .sequence s => { b with sequences := b.sequences ++ [s] }
  | .subscription s => { b with subscriptions := b.subscriptions ++ [s] }
  | .channel c => { b with channels := b.channels ++ [c] }

def ofList (os : List Object) : Bundle := os.foldl add {}

def size (b : Bundle) : Nat := b.sequences.length + b.channels.length + b.subscriptions.length

end Bundle

/-- Why a document is no object. -/
inductive ObjectFault
  | noKind
  | invalid (kind : Value) (r : Rejection)
deriving DecidableEq

/-- The decoder for a kind; anything that is not a known text is taken for a channel. -/
def decoderOf (r : ResourceDefaults) (kind : Value) : Decoder Object :=
  if kind = .str r.kind then fun v => Object.sequence <$> Sequence.decode v
  else if kind = .str r.subscriptionKind then fun v => Object.subscription <$> Subscription.decode v
  else fun v => Object.channel <$> Channel.decode v

/-- The model that a kind is decoded as. -/
def modelOf (r : ResourceDefaults) (kind : Value) : String :=
  if kind = .str r.kind then "Sequence"
  else if kind = .str r.subscriptionKind then "Subscription"
  else "Channelable"

/-- The kind of a document, unless it is missing or says nothing. -/
def kind? (es : Entries) : Option Value := (es.get? "kind").filter Value.isSome

/-- Read one document. -/
def readObject (r : ResourceDefaults) (es : Entries) : Except ObjectFault Object :=
  match kind? es with
  | none => .error .noKind
  | some kind =>
    match (decoderOf r kind (.map es)).toExcept (modelOf r kind) with
    | .ok o => .ok o
    | .error rejection => .error (.invalid kind rejection)

end Readiness.Manifest
