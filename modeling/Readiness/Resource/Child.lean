import Readiness.Condition.Basic
import Readiness.Resource.Address
import Readiness.Resource.Identity

/-!
# Observed children

Snapshots of the channels and subscriptions that a sequence is made of. What kind of channel one is does not
matter: anything with conditions and an address will do, and specs are carried along unread.
-/
namespace Readiness

open Schema

def specField : FieldName := ⟨"spec", "spec"⟩
def statusField : FieldName := ⟨"status", "status"⟩

/-- `ConditionedStatus`: the status fields that all resources with conditions share. -/
structure Health where
  observedGeneration : Nat := 0
  conditions : Conditions := []
  annotations : List (Text × Text) := []
deriving DecidableEq

namespace Health

def observedGenerationField : FieldName := ⟨"observed_generation", "observedGeneration"⟩
def conditionsField : FieldName := ⟨"conditions", "conditions"⟩
def annotationsField : FieldName := ⟨"annotations", "annotations"⟩

/-- `get_ready_condition`: the first condition that tells whether the resource is ready. -/
def ready? (h : Health) : Option Condition := h.conditions.get? "Ready"

theorem ready?_eq_some_iff {h : Health} {c : Condition} : h.ready? = some c ↔ c.type.val = "Ready" ∧
    ∃ before after, h.conditions = before ++ c :: after ∧ ∀ d ∈ before, d.type.val ≠ "Ready" := by
  simp [ready?, Conditions.get?, List.find?_eq_some_iff_append]

theorem ready?_eq_none_iff {h : Health} : h.ready? = none ↔ ∀ c ∈ h.conditions, c.type.val ≠ "Ready" := by
  simp [ready?, Conditions.get?]

def ofEntries (es : Entries) : Decoded Health :=
  Health.mk <$> observedGenerationField.decode es Decoder.natural 0
    <*> conditionsField.decode es (Decoder.listOf Condition.decode) []
    <*> annotationsField.decode es (Decoder.mappingOf Decoder.text) []

def decode : Decoder Health := record "ConditionedStatus" ofEntries

def fields (h : Health) : List (FieldName × Tree) := [
  (observedGenerationField, .ofNat h.observedGeneration),
  (conditionsField, .list (h.conditions.map Condition.tree)),
  (annotationsField, .ofTexts h.annotations)]

def tree (h : Health) : Tree := .record h.fields

end Health

/-- An object that was just created reports a null status; it stands for an empty one. -/
def orEmpty {α : Type} (d : Decoder α) : Decoder α := fun v =>
  match v with
  | .null => d (.map [])
  | v => d v

/-- Untyped entries under text keys. -/
def decodeOpen : Decoder Fields := Decoder.mappingOf Decoder.anything

structure ChannelStatus where
  health : Health := {}
  address : Option Address := none
  deadLetterSinkUri : Option Text := none
deriving DecidableEq

namespace ChannelStatus

def addressField : FieldName := ⟨"address", "address"⟩
def deadLetterSinkUriField : FieldName := ⟨"dead_letter_sink_uri", "deadLetterSinkUri"⟩

def decode : Decoder ChannelStatus := record "ChannelableStatus" fun es =>
  ChannelStatus.mk <$> Health.ofEntries es
    <*> addressField.decode es (Decoder.optional Address.decode) none
    <*> deadLetterSinkUriField.decode es (Decoder.optional Decoder.text) none

def tree (s : ChannelStatus) : Tree := .record (s.health.fields ++ [
  (addressField, .ofOption Address.tree s.address),
  (deadLetterSinkUriField, .ofOption .ofText s.deadLetterSinkUri)])

end ChannelStatus

/-- `Channelable`: a channel, as far as it is looked at. -/
structure Channel where
  identity : Identity := {}
  spec : Fields := []
  status : ChannelStatus := {}
deriving DecidableEq

namespace Channel

def ready? (c : Channel) : Option Condition := c.status.health.ready?

def decode : Decoder Channel := record "Channelable" fun es =>
  Channel.mk <$> Identity.ofEntries es
    <*> specField.decode es decodeOpen []
    <*> statusField.decode es (orEmpty ChannelStatus.decode) {}

def tree (c : Channel) : Tree := .record (c.identity.fields ++ [
  (specField, .untyped c.spec),
  (statusField, c.status.tree)])

end Channel

structure SubscriptionStatus where
  health : Health := {}
  physicalSubscription : Fields := []
deriving DecidableEq

namespace SubscriptionStatus

def physicalSubscriptionField : FieldName := ⟨"physical_subscription", "physicalSubscription"⟩

def decode : Decoder SubscriptionStatus := record "SubscriptionStatus" fun es =>
  SubscriptionStatus.mk <$> Health.ofEntries es
    <*> physicalSubscriptionField.decode es decodeOpen []

def tree (s : SubscriptionStatus) : Tree := .record (s.health.fields ++ [
  (physicalSubscriptionField, .untyped s.physicalSubscription)])

end SubscriptionStatus

/-- `Subscription`: what leads from one channel to the next. -/
structure Subscription where
  identity : Identity := {}
  spec : Fields := []
  status : SubscriptionStatus := {}
deriving DecidableEq

namespace Subscription

def ready? (s : Subscription) : Option Condition := s.status.health.ready?

def decode : Decoder Subscription := record "Subscription" fun es =>
  Subscription.mk <$> Identity.ofEntries es
    <*> specField.decode es decodeOpen []
    <*> statusField.decode es (orEmpty SubscriptionStatus.decode) {}

def tree (s : Subscription) : Tree := .record (s.identity.fields ++ [
  (specField, .untyped s.spec),
  (statusField, s.status.tree)])

end Subscription

end Readiness
