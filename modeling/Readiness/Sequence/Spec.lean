import Readiness.Resource.Child

/-!
# Sequence specs

The desired shape of a sequence: its steps, the template of the channels between them, and where the reply goes.
Specs are carried, not interpreted.
-/
namespace Readiness

open Schema

/-- Where events go: an object, a URI, or a URI relative to the object. -/
structure Destination where
  ref : Option Reference := none
  uri : Option Text := none
  caCerts : Option Text := none
  audience : Option Text := none
deriving DecidableEq, Repr

namespace Destination

def refField : FieldName := ⟨"ref", "ref"⟩
def uriField : FieldName := ⟨"uri", "uri"⟩

def ofEntries (es : Entries) : Decoded Destination :=
  Destination.mk <$> refField.decode es (Decoder.optional Reference.decode) none
    <*> uriField.decode es (Decoder.optional Decoder.text) none
    <*> Address.caCertsField.decode es (Decoder.optional Decoder.text) none
    <*> Address.audienceField.decode es (Decoder.optional Decoder.text) none

def decode : Decoder Destination := record "Destination" ofEntries

def fields (d : Destination) : List (FieldName × Tree) := [
  (refField, .ofOption Reference.tree d.ref),
  (uriField, .ofOption .ofText d.uri),
  (Address.caCertsField, .ofOption .ofText d.caCerts),
  (Address.audienceField, .ofOption .ofText d.audience)]

def tree (d : Destination) : Tree := .record d.fields

end Destination

/-- What to do when a delivery fails. -/
structure Delivery where
  deadLetterSink : Option Destination := none
  retry : Option Int := none
  backoffPolicy : Option Text := none
  backoffDelay : Option Text := none
deriving DecidableEq, Repr

namespace Delivery

def deadLetterSinkField : FieldName := ⟨"dead_letter_sink", "deadLetterSink"⟩
def retryField : FieldName := ⟨"retry", "retry"⟩
def backoffPolicyField : FieldName := ⟨"backoff_policy", "backoffPolicy"⟩
def backoffDelayField : FieldName := ⟨"backoff_delay", "backoffDelay"⟩

def decode : Decoder Delivery := record "DeliverySpec" fun es =>
  Delivery.mk <$> deadLetterSinkField.decode es (Decoder.optional Destination.decode) none
    <*> retryField.decode es (Decoder.optional Decoder.whole) none
    <*> backoffPolicyField.decode es (Decoder.optional Decoder.text) none
    <*> backoffDelayField.decode es (Decoder.optional Decoder.text) none

def tree (d : Delivery) : Tree := .record [
  (deadLetterSinkField, .ofOption Destination.tree d.deadLetterSink),
  (retryField, .ofOption (fun n => .leaf (.int n)) d.retry),
  (backoffPolicyField, .ofOption .ofText d.backoffPolicy),
  (backoffDelayField, .ofOption .ofText d.backoffDelay)]

end Delivery

/-- One stage: where its events go, and how. -/
structure Stage where
  destination : Destination := {}
  delivery : Option Delivery := none
deriving DecidableEq, Repr

namespace Stage

def deliveryField : FieldName := ⟨"delivery", "delivery"⟩

def decode : Decoder Stage := record "SequenceStep" fun es =>
  Stage.mk <$> Destination.ofEntries es
    <*> deliveryField.decode es (Decoder.optional Delivery.decode) none

def tree (s : Stage) : Tree := .record (s.destination.fields ++ [
  (deliveryField, .ofOption Delivery.tree s.delivery)])

end Stage

/-- Kind and spec of the channels made for the stages. -/
structure ChannelTemplate where
  apiVersion : Text := ""
  kind : Text := ""
  spec : Fields := []
deriving DecidableEq

namespace ChannelTemplate

def decode : Decoder ChannelTemplate := record "ChannelTemplateSpec" fun es =>
  ChannelTemplate.mk <$> apiVersionField.decode es Decoder.text ""
    <*> kindField.decode es Decoder.text ""
    <*> specField.decode es decodeOpen []

def tree (t : ChannelTemplate) : Tree := .record [
  (apiVersionField, .ofText t.apiVersion),
  (kindField, .ofText t.kind),
  (specField, .untyped t.spec)]

end ChannelTemplate

structure SequenceSpec where
  stages : List Stage := []
  channelTemplate : Option ChannelTemplate := none
  reply : Option Destination := none
deriving DecidableEq

namespace SequenceSpec

def stagesField : FieldName := ⟨"steps", "steps"⟩
def channelTemplateField : FieldName := ⟨"channel_template", "channelTemplate"⟩
def replyField : FieldName := ⟨"reply", "reply"⟩

def decode : Decoder SequenceSpec := record "SequenceSpec" fun es =>
  SequenceSpec.mk <$> stagesField.decode es (Decoder.listOf Stage.decode) []
    <*> channelTemplateField.decode es (Decoder.optional ChannelTemplate.decode) none
    <*> replyField.decode es (Decoder.optional Destination.decode) none

def tree (s : SequenceSpec) : Tree := .record [
  (stagesField, .list (s.stages.map Stage.tree)),
  (channelTemplateField, .ofOption ChannelTemplate.tree s.channelTemplate),
  (replyField, .ofOption Destination.tree s.reply)]

end SequenceSpec

end Readiness
