import Readiness.Proofs.Sequence.Evidence
import Readiness.Proofs.Sequence.Outcome

/-!
# Entries mirror the children

Channels and subscriptions are propagated by two loops with one law (`Mirrors`): the entries afterwards are those of the
children that were given, one for each, in their order, whatever entries there were before; and the condition of that
sort of children tells whether there are entries and all of them are ready. The law is stated of what the children hold,
their identity and their list of conditions. What the loops share is rebuilding the entries and marking the condition by
them, so the law is proved of that (`mirrors_markChildren`).
-/
namespace Readiness

open Calendar ConditionSet Conditions Declaration Schema

/-- What a child holds that is recorded of it: its identity, and its conditions. -/
def Channel.held (c : Channel) : Identity × Conditions := (c.identity, c.status.health.conditions)

def Subscription.held (c : Subscription) : Identity × Conditions := (c.identity, c.status.health.conditions)

namespace ChildKind

def other : ChildKind → ChildKind
  | .channel => .subscription
  | .subscription => .channel

/-- The fixed texts about one sort of children. -/
structure Words where
  /-- The type of their common condition. -/
  type : String
  /-- What the stand-in says of a child without a condition of the type `Ready`. -/
  silent : Text
  reason : Text
  message : Text

def words : ChildKind → Words
  | .channel => ⟨"ChannelsReady", "Channel does not have Ready condition", "ChannelsNotReady",
    "Channels are not ready yet, or there are none"⟩
  | .subscription => ⟨"SubscriptionsReady", "Subscription does not have Ready condition", "SubscriptionsNotReady",
    "Subscriptions are not ready yet, or there are none"⟩

theorem words_eq (k : ChildKind) : k.words = ⟨k.aspect.type, k.withoutReady, k.notReadyReason, k.notReadyMessage⟩ := by
  cases k <;> rfl

end ChildKind

namespace SequenceStatus

open Finding

/-- What is recorded of a child: which object it is, and its own first condition of the type `Ready` in every field. If
it has none, the condition is a stand-in, of which nothing but the time is open. -/
structure Records (k : ChildKind) (identity : Identity) (conditions : Conditions) (e : StageStatus) : Prop where
  apiVersion : e.child.apiVersion = identity.apiVersion
  kind : e.child.kind = identity.kind
  name : e.child.name = identity.metadata.name.val
  space : e.child.space = identity.metadata.space.val
  own : ∀ earlier c later, conditions = earlier ++ c :: later → (∀ d ∈ earlier, d.type.val ≠ "Ready") →
    c.type.val = "Ready" → e.ready = c
  standIn : (∀ c ∈ conditions, c.type.val ≠ "Ready") → ∃ time : DateTime, e.ready = {
    type := ⟨"Ready", fits_ready⟩
    status := .unknown
    severity := .error
    transition := some time
    reason := "NoReady"
    message := k.words.silent }

/-- The entries and the condition of one sort of children are as the children say. -/
structure Mirrors (k : ChildKind) (children : List (Identity × Conditions)) (before after : SequenceStatus) :
    Prop where
  length : (after.entries k).length = children.length
  records : ∀ (i : Nat) identity conditions, children[i]? = some (identity, conditions) →
    ∃ e, (after.entries k)[i]? = some e ∧ Records k identity conditions e
  ready : EveryReady (after.entries k) → ∃ c, after.conditions.get? k.words.type = some c ∧
    c.status = .yes ∧ c.reason = "" ∧ c.message = ""
  notReady : ¬ EveryReady (after.entries k) → ∃ c, after.conditions.get? k.words.type = some c ∧
    c.status = .unknown ∧ c.reason = k.words.reason ∧ c.message = k.words.message
  others : after.entries k.other = before.entries k.other

variable {now : DateTime} {k : ChildKind} {before s : SequenceStatus}

theorem Records.child_eq {identity : Identity} {conditions : Conditions} {e : StageStatus}
    (h : Records k identity conditions e) : e.child = identity.reference :=
  (Identity.reference_eq_iff.2 ⟨h.apiVersion, h.kind, h.name, h.space⟩).symm

theorem child_observe (now : DateTime) (k : ChildKind) (previous : Option StageStatus) (child : Reference)
    (ready? : Option Condition) : (observe now k previous child ready?).child = child := by
  cases ready? with
  | some c => rfl
  | none =>
    obtain ⟨_, he⟩ := standsFor_observe now k previous child
    rw [he]

theorem records_observe (previous : Option StageStatus) (identity : Identity) (conditions : Conditions) :
    Records k identity conditions
      (observe now k previous (identity.seenWith conditions).1 (identity.seenWith conditions).2) := by
  have hchild := child_observe now k previous (identity.seenWith conditions).1 (identity.seenWith conditions).2
  constructor
  case apiVersion => rw [hchild]; rfl
  case kind => rw [hchild]; rfl
  case name => rw [hchild]; rfl
  case space => rw [hchild]; rfl
  case own =>
    intro earlier c later hconditions hearlier htype
    have hfirst : (identity.seenWith conditions).2 = some c :=
      (Health.ready?_eq_some_iff (h := { conditions := conditions })).2 ⟨htype, earlier, later, hconditions, hearlier⟩
    rw [hfirst]
    rfl
  case standIn =>
    intro hsilent
    have hnone : (identity.seenWith conditions).2 = none :=
      (Health.ready?_eq_none_iff (h := { conditions := conditions })).2 hsilent
    obtain ⟨time, he⟩ := standsFor_observe now k previous (identity.seenWith conditions).1
    exact ⟨time, by rw [hnone, he, k.words_eq]⟩

/-- The condition that a finding about children leaves. -/
theorem exists_of_told {cs : Conditions} {children : List (Option Condition)} (h : (ofChildren k children).Told cs) :
    ∃ c, cs.get? k.words.type = some c ∧
      (c.status, c.reason, c.message) = if everyReady children then (Status.yes, ("" : Text), ("" : Text))
        else (.unknown, k.words.reason, k.words.message) := by
  rw [k.words_eq]
  obtain ⟨c, hget, hsame⟩ := h
  obtain ⟨-, hstatus, -, hreason, hmessage⟩ := Condition.sameContent_iff.1 hsame
  refine ⟨c, hget, ?_⟩
  rw [← hstatus, ← hreason, ← hmessage]
  unfold ofChildren
  split <;> rfl

/-- Where the entries were rebuilt and the other ones left alone, marking completes the mirror. -/
theorem mirrors_markChildren {children : List (Identity × Conditions)} (hd : s.conditions.Distinct)
    (hself : s.entries k = observeAll now k (before.entries k) (children.map fun child => child.1.seenWith child.2))
    (hothers : s.entries k.other = before.entries k.other) :
    Mirrors k children before (s.markChildren now k (s.entries k)) := by
  let seen := children.map fun child => child.1.seenWith child.2
  have htold : (ofChildren k (seen.map (·.2))).Told (s.markChildren now k (s.entries k)).conditions := by
    rw [hself, conditions_markChildren]
    exact told_mark now hd _
  obtain ⟨c, hget, hcontent⟩ := exists_of_told htold
  have hready : EveryReady (s.entries k) ↔ everyReady (seen.map (·.2)) = true := by
    rw [← everyReady_iff, hself, allReady_observeAll]
  constructor
  case length => rw [entries_markChildren, hself, length_observeAll, List.length_map]
  case records =>
    intro i identity conditions hi
    rw [entries_markChildren, hself, getElem?_observeAll, List.getElem?_map, hi]
    exact ⟨_, rfl, records_observe _ identity conditions⟩
  case ready =>
    intro h
    rw [entries_markChildren, hready] at h
    rw [if_pos h] at hcontent
    exact ⟨c, hget, by simpa using hcontent⟩
  case notReady =>
    intro h
    rw [entries_markChildren, hready] at h
    rw [if_neg h] at hcontent
    exact ⟨c, hget, by simpa using hcontent⟩
  case others => rw [entries_markChildren, hothers]

theorem mirrors_propagateChannels (hd : s.conditions.Distinct) (cs : List Channel) :
    Mirrors .channel (cs.map Channel.held) s (s.propagateChannels now cs) := by
  cases cs with
  | nil => exact mirrors_markChildren (s := { s with channels := [] }) hd rfl rfl
  | cons c cs =>
    have hd' : (s.setAddress now c.status.address).conditions.Distinct := by
      rw [conditions_setAddress]
      exact (written_mark now _).distinct hd
    let rebuilt := observeAll now .channel s.channels ((c :: cs).map Channel.seen)
    have hself : rebuilt = observeAll now .channel s.channels
        (((c :: cs).map Channel.held).map fun child => child.1.seenWith child.2) := by
      rw [List.map_map]
      rfl
    exact mirrors_markChildren (s := { s.setAddress now c.status.address with channels := rebuilt }) hd' hself
      (entries_setAddress .subscription now c.status.address s)

theorem mirrors_propagateSubscriptions (hd : s.conditions.Distinct) (ss : List Subscription) :
    Mirrors .subscription (ss.map Subscription.held) s (s.propagateSubscriptions now ss) := by
  let rebuilt := observeAll now .subscription s.subscriptions (ss.map Subscription.seen)
  have hself : rebuilt = observeAll now .subscription s.subscriptions
      ((ss.map Subscription.held).map fun child => child.1.seenWith child.2) := by
    rw [List.map_map]
    rfl
  exact mirrors_markChildren (s := { s with subscriptions := rebuilt }) hd hself rfl

/-- **Entries mirror the children.** Whatever was recorded before, as long as no type of condition is repeated: after a
propagation of channels (`propagate_channel_statuses`), entry `i` has the version, kind, name and namespace of channel
`i` and its first condition of the type `Ready` in every field, or, if it has none, the stand-in, of which nothing but
the time is open. There are no more and no fewer entries than channels. If there are some and all are ready, the
condition of the channels is true; otherwise it is unknown, for the fixed reason. The entries of the subscriptions are as
before. For subscriptions (`propagate_subscription_statuses`) the same law holds. -/
theorem mirror_of_propagation (s : SequenceStatus) (hd : s.conditions.Distinct) (now : DateTime)
    (channels : Option (List Channel)) (subscriptions : Option (List Subscription)) :
    Mirrors .channel ((channels.getD []).map Channel.held) s (s.propagateChannels now (channels.getD [])) ∧
    Mirrors .subscription ((subscriptions.getD []).map Subscription.held) s
      (s.propagateSubscriptions now (subscriptions.getD [])) :=
  ⟨mirrors_propagateChannels hd _, mirrors_propagateSubscriptions hd _⟩

/-- Four entries of channels that are gone make way for three: one that is ready by the first of its two conditions of
that type, one that failed, and one that says nothing. -/
theorem mirror_of_propagation_over_stale_entries :
    let ready (status : Status) (reason : Text) : Condition :=
      { type := ⟨"Ready", by decide⟩, status := status, reason := reason }
    let other : Condition := { type := ⟨"Dispatched", by decide⟩, status := .no }
    let channel (name : Decoder.BoundedText 0 253) (conditions : Conditions) : Channel :=
      { identity := {
          apiVersion := "messaging/v1"
          kind := "InMemoryChannel"
          metadata := { name := name, space := ⟨"default", by decide⟩ } }
        status := { health := { conditions := conditions } } }
    let first := channel ⟨"steps-0", by decide⟩ [other, ready .yes "", ready .no "Second"]
    let failed := channel ⟨"steps-1", by decide⟩ [ready .no "Down"]
    let silent := channel ⟨"steps-2", by decide⟩ [other]
    let stale : StageStatus := ⟨⟨"messaging/v1", "InMemoryChannel", "gone", "default"⟩, ready .yes ""⟩
    let s : SequenceStatus := { channels := [stale, stale, stale, stale], subscriptions := [stale] }
    let after := s.propagateChannels default [first, failed, silent]
    let recorded (i : Nat) (name : String) (about : Condition → Prop) : Prop := ∃ e, after.channels[i]? = some e ∧
      e.child = ⟨"messaging/v1", "InMemoryChannel", name, "default"⟩ ∧ about e.ready
    s.conditions.Distinct ∧ Mirrors .channel [first.held, failed.held, silent.held] s after ∧
      recorded 0 "steps-0" (· = ready .yes "") ∧ recorded 1 "steps-1" (· = ready .no "Down") ∧
      recorded 2 "steps-2" (fun c => c.status = .unknown ∧ c.reason = "NoReady") ∧
      after.channels.length = 3 ∧ after.subscriptions = [stale] := by
  intro ready other channel first failed silent stale s after recorded
  have hd : s.conditions.Distinct := distinct_nil
  have hmirror : Mirrors .channel [first.held, failed.held, silent.held] s after :=
    (mirror_of_propagation s hd default (some [first, failed, silent]) none).1
  refine ⟨hd, hmirror, ?ready, ?failed, ?silent, hmirror.length, hmirror.others⟩
  case ready =>
    obtain ⟨e, he, hrecords⟩ := hmirror.records 0 _ _ rfl
    exact ⟨e, he, hrecords.child_eq, hrecords.own [other] (ready .yes "") [ready .no "Second"] rfl (by decide) rfl⟩
  case failed =>
    obtain ⟨e, he, hrecords⟩ := hmirror.records 1 _ _ rfl
    exact ⟨e, he, hrecords.child_eq, hrecords.own [] (ready .no "Down") [] rfl (by decide) rfl⟩
  case silent =>
    obtain ⟨e, he, hrecords⟩ := hmirror.records 2 _ _ rfl
    obtain ⟨time, hready⟩ := hrecords.standIn (by decide)
    exact ⟨e, he, hrecords.child_eq, by rw [hready]; exact ⟨rfl, rfl⟩⟩

end SequenceStatus

end Readiness
