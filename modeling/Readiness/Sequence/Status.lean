import Readiness.Condition.Set
import Readiness.Resource.Child

/-!
# Sequence status

The health of a sequence, derived from its children. Every anomaly becomes data: a child without a `Ready`
condition, an empty list of children, an address without a URL are reported as unknown with a reason. False is
kept for a failure that is reported as such, which is only that of the identity.
-/
namespace Readiness

open Calendar Schema

/-- The conditions that `Ready` of a sequence depends on. -/
inductive Aspect
  | channels
  | subscriptions
  | address
  | identity
deriving DecidableEq, Repr

def Aspect.type : Aspect → String
  | .channels => "ChannelsReady"
  | .subscriptions => "SubscriptionsReady"
  | .address => "Addressable"
  | .identity => "OIDCIdentityCreated"

def Aspect.all : List Aspect := [.channels, .subscriptions, .address, .identity]

/-- The condition set of every sequence. -/
def sequenceConditions : ConditionSet := .living (Aspect.all.map Aspect.type)

/-- `SequenceChannelStatus` and `SequenceSubscriptionStatus`: what was seen of the child of one stage: which object it
is, and its `Ready` condition. -/
structure StageStatus where
  child : Reference := {}
  ready : Condition := { type := ⟨"Ready", by decide⟩ }
deriving DecidableEq

/-- The two sorts of children, which differ only in words. -/
inductive ChildKind
  | channel
  | subscription
deriving DecidableEq, Repr

namespace ChildKind

def model : ChildKind → String
  | .channel => "SequenceChannelStatus"
  | .subscription => "SequenceSubscriptionStatus"

def childField : ChildKind → FieldName
  | .channel => ⟨"channel", "channel"⟩
  | .subscription => ⟨"subscription", "subscription"⟩

def aspect : ChildKind → Aspect
  | .channel => .channels
  | .subscription => .subscriptions

/-- The message of a child that has no `Ready` condition. -/
def withoutReady : ChildKind → String
  | .channel => "Channel does not have Ready condition"
  | .subscription => "Subscription does not have Ready condition"

def notReadyReason : ChildKind → String
  | .channel => "ChannelsNotReady"
  | .subscription => "SubscriptionsNotReady"

def notReadyMessage : ChildKind → String
  | .channel => "Channels are not ready yet, or there are none"
  | .subscription => "Subscriptions are not ready yet, or there are none"

end ChildKind

namespace StageStatus

def readyField : FieldName := ⟨"ready_condition", "ready"⟩

def decode (k : ChildKind) : Decoder StageStatus := record k.model fun es =>
  StageStatus.mk <$> k.childField.decode es Reference.decode {}
    <*> readyField.decode es Condition.decode { type := ⟨"Ready", by decide⟩ }

def tree (k : ChildKind) (s : StageStatus) : Tree := .record [
  (k.childField, s.child.tree),
  (readyField, s.ready.tree)]

end StageStatus

/-- `SequenceStatus`: entry `i` of either list describes stage `i`; the address is that of the first channel. -/
structure SequenceStatus where
  health : Health := {}
  channels : List StageStatus := []
  subscriptions : List StageStatus := []
  address : Address := {}
  auth : Option Auth := none
deriving DecidableEq

namespace SequenceStatus

def channelsField : FieldName := ⟨"channel_statuses", "channelStatuses"⟩
def subscriptionsField : FieldName := ⟨"subscription_statuses", "subscriptionStatuses"⟩
def authField : FieldName := ⟨"auth", "auth"⟩

def decode : Decoder SequenceStatus := record "SequenceStatus" fun es =>
  SequenceStatus.mk <$> Health.ofEntries es
    <*> channelsField.decode es (Decoder.listOf (StageStatus.decode .channel)) []
    <*> subscriptionsField.decode es (Decoder.listOf (StageStatus.decode .subscription)) []
    <*> ChannelStatus.addressField.decode es Address.decode {}
    <*> authField.decode es (Decoder.optional Auth.decode) none

def tree (s : SequenceStatus) : Tree := .record (s.health.fields ++ [
  (channelsField, .list (s.channels.map (StageStatus.tree .channel))),
  (subscriptionsField, .list (s.subscriptions.map (StageStatus.tree .subscription))),
  (ChannelStatus.addressField, s.address.tree),
  (authField, .ofOption Auth.tree s.auth)])

/-! ## Conditions -/

def conditions (s : SequenceStatus) : Conditions := s.health.conditions

def withConditions (cs : Conditions) (s : SequenceStatus) : SequenceStatus :=
  { s with health := { s.health with conditions := cs } }

/-- Apply an operation to the conditions. The types of a sequence are all well-formed, so none is refused. -/
def onConditions (s : SequenceStatus) (op : Conditions → Outcome) : SequenceStatus :=
  s.withConditions (op s.conditions).conditions

/-- `is_ready`: whether the happy condition is true. -/
def isReady (s : SequenceStatus) : Bool := sequenceConditions.isHappy s.conditions

/-- `initialize_conditions`: seed the conditions of a sequence. -/
def seedMissing (now : DateTime) (s : SequenceStatus) : SequenceStatus :=
  s.onConditions (sequenceConditions.seedMissing now)

def markTrue (now : DateTime) (a : Aspect) (s : SequenceStatus) : SequenceStatus :=
  s.onConditions (sequenceConditions.markTrue now a.type)

def markTrueWith (now : DateTime) (a : Aspect) (reason message : Text) (s : SequenceStatus) :
    SequenceStatus :=
  s.onConditions (sequenceConditions.markTrueWith now a.type reason message)

def markUnknown (now : DateTime) (a : Aspect) (reason message : Text) (s : SequenceStatus) :
    SequenceStatus :=
  s.onConditions (sequenceConditions.markUnknown now a.type reason message)

def markFalse (now : DateTime) (a : Aspect) (reason message : Text) (s : SequenceStatus) :
    SequenceStatus :=
  s.onConditions (sequenceConditions.markFalse now a.type reason message)

/-! ## Propagation from children -/

/-- The condition that stands for a missing `Ready` condition. -/
def absentReady (now : DateTime) (k : ChildKind) : Condition where
  type := ⟨"Ready", by decide⟩
  transition := some now.truncated
  reason := "NoReady"
  message := k.withoutReady

/-- `_prior_ready` and `_ready_condition_of`: what to record for one child. A stand-in that was recorded before at the
same stage for the same child keeps its time, so that repeated passes agree. -/
def observe (now : DateTime) (k : ChildKind) (previous : Option StageStatus) (child : Reference)
    (ready? : Option Condition) : StageStatus :=
  match ready? with
  | some c => ⟨child, c⟩
  | none =>
    let fresh := absentReady now k
    match previous with
    | some p =>
      let kept := { fresh with transition := p.ready.transition }
      if p.child = child ∧ p.ready.transition.isSome ∧ kept = p.ready then ⟨child, kept⟩
      else ⟨child, fresh⟩
    | none => ⟨child, fresh⟩

/-- The entries for a list of children, compared stage by stage with the entries before. -/
def observeAll (now : DateTime) (k : ChildKind) :
    List StageStatus → List (Reference × Option Condition) → List StageStatus
  | _, [] => []
  | before, (child, ready?) :: rest =>
    observe now k before.head? child ready? :: observeAll now k before.tail rest

/-- Every child is ready, and there are children. -/
def allReady (entries : List StageStatus) : Bool :=
  !entries.isEmpty && entries.all fun e => e.ready.status = .yes

/-- Mark the condition of a sort of children by its entries. -/
def markChildren (now : DateTime) (k : ChildKind) (entries : List StageStatus) (s : SequenceStatus) :
    SequenceStatus :=
  if allReady entries then s.markTrue now k.aspect
  else s.markUnknown now k.aspect k.notReadyReason k.notReadyMessage

/-- `_set_address`: take over the URL of an address, if it has one. -/
def setAddress (now : DateTime) (a : Option Address) (s : SequenceStatus) : SequenceStatus :=
  match a.bind Address.target? with
  | some url => { s with address := { url := some url } }.markTrue now .address
  | none => { s with address := {} }.markUnknown now .address "emptyAddress" "addressable is nil"

/-- `propagate_channel_statuses`: rebuild the entries of the channels. Without channels the address stays as it is. -/
def propagateChannels (now : DateTime) (cs : List Channel) (s : SequenceStatus) : SequenceStatus :=
  let addressed := match cs with
    | [] => s
    | c :: _ => s.setAddress now c.status.address
  let entries := observeAll now .channel s.channels (cs.map fun c => (c.identity.reference, c.ready?))
  { addressed with channels := entries }.markChildren now .channel entries

/-- `propagate_subscription_statuses`: rebuild the entries of the subscriptions. -/
def propagateSubscriptions (now : DateTime) (ss : List Subscription) (s : SequenceStatus) :
    SequenceStatus :=
  let entries := observeAll now .subscription s.subscriptions
    (ss.map fun c => (c.identity.reference, c.ready?))
  { s with subscriptions := entries }.markChildren now .subscription entries

end SequenceStatus

end Readiness
