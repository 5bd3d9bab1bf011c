import Readiness.Pass
import Readiness.Proofs.Condition.Happy

/-!
# Runs of status operations

The status of a sequence starts empty and changes through a handful of operations: seeding, the two propagations, the
marks, whole passes and failed fetches. A run is a list of them, each at its own point in time, with children that have
nothing to do with one another from step to step.

What all of them do to the *conditions* is said once (`Regular`): the list is sorted, the happy condition is backed by
its dependents, only the identity ever fails, and a happy condition that is false goes back to an identity that has
failed or recovered since.
-/
namespace Readiness

open Calendar ConditionSet Conditions Declaration

/-! ## The tracked conditions of a sequence -/

theorem dependents_sequenceConditions : sequenceConditions.dependents = Aspect.all.map Aspect.type := by decide

theorem wellNamed_sequenceConditions : sequenceConditions.WellNamed := ⟨by decide, by decide⟩

namespace Aspect

/-- The type of an aspect, as the name of a condition. -/
def name (a : Aspect) : ConditionType := ⟨a.type, by cases a <;> decide⟩

theorem mem_all (a : Aspect) : a ∈ all := by cases a <;> decide

theorem type_mem (a : Aspect) : a.type ∈ sequenceConditions.dependents := by
  rw [dependents_sequenceConditions]
  exact List.mem_map_of_mem a.mem_all

theorem name_mem (a : Aspect) : a.name.val ∈ sequenceConditions.dependents := a.type_mem

theorem type_ne_happy (a : Aspect) : a.type ≠ sequenceConditions.happy := ne_happy a.type_mem

theorem name_ne_happy (a : Aspect) : a.name.val ≠ sequenceConditions.happy := a.type_ne_happy

theorem exists_of_mem {d : String} (h : d ∈ sequenceConditions.dependents) : ∃ a : Aspect, a.type = d := by
  rw [dependents_sequenceConditions] at h
  obtain ⟨a, _, ha⟩ := List.mem_map.1 h
  exact ⟨a, ha⟩

@[simp] theorem type_inj {a b : Aspect} : a.type = b.type ↔ a = b := by
  cases a <;> cases b <;> decide

end Aspect

/-! ## Operations -/

/-- What is seen of a child: which one it is, and what it says of itself, that is the first of its conditions that is
about `Ready`. -/
def Identity.seenWith (i : Identity) (conditions : Conditions) : Reference × Option Condition :=
  ({ apiVersion := i.apiVersion, kind := i.kind, name := i.metadata.name.val, space := i.metadata.space.val },
    conditions.find? fun c => c.type.val = "Ready")

def Channel.seen (c : Channel) : Reference × Option Condition := c.identity.seenWith c.status.health.conditions

def Subscription.seen (c : Subscription) : Reference × Option Condition := c.identity.seenWith c.status.health.conditions

namespace SequenceStatus

/-- What can be done to a status. No list of children at all counts as an empty one. Passes and fetch failures happen
to the status within some sequence and journal. -/
inductive Operation
  | seedMissing
  | propagateChannels (channels : Option (List Channel))
  | propagateSubscriptions (subscriptions : Option (List Subscription))
  | markUnknown (a : Aspect) (reason message : Text)
  | identityCreated
  | identityCreatedWith (reason message : Text)
  | identityFailed (reason message : Text)
  | pass (host : Work) (channels : Option (List Channel)) (subscriptions : Option (List Subscription))
  | fetchFailure (host : Work) (kind error : Text)

/-- The status after a pass over its sequence. -/
def pass (host : Work) (now : DateTime) (channels : Option (List Channel)) (subscriptions : Option (List Subscription))
    (s : SequenceStatus) : SequenceStatus :=
  ((host.onStatus fun _ => s).reconcile now (channels.getD []) (subscriptions.getD [])).2.sequence.status

/-- The status after a failed fetch of children. -/
def fetchFailure (host : Work) (now : DateTime) (kind error : Text) (s : SequenceStatus) : SequenceStatus :=
  ((host.onStatus fun _ => s).markFetchFailure now kind error).2.sequence.status

def Operation.apply (now : DateTime) : Operation → SequenceStatus → SequenceStatus
  | .seedMissing => SequenceStatus.seedMissing now
  | .propagateChannels channels => SequenceStatus.propagateChannels now (channels.getD [])
  | .propagateSubscriptions subscriptions => SequenceStatus.propagateSubscriptions now (subscriptions.getD [])
  | .markUnknown a reason message => SequenceStatus.markUnknown now a reason message
  | .identityCreated => SequenceStatus.markTrue now .identity
  | .identityCreatedWith reason message => SequenceStatus.markTrueWith now .identity reason message
  | .identityFailed reason message => SequenceStatus.markFalse now .identity reason message
  | .pass host channels subscriptions => SequenceStatus.pass host now channels subscriptions
  | .fetchFailure host kind error => SequenceStatus.fetchFailure host now kind error

/-- An operation at a point in time. -/
abbrev Step := DateTime × Operation

def run (steps : List Step) (s : SequenceStatus) : SequenceStatus := steps.foldl (fun s st => st.2.apply st.1 s) s

/-- Where a status can get to from an empty one. -/
abbrev reached (steps : List Step) : SequenceStatus := run steps {}

theorem pass_eq (host : Work) (now : DateTime) (channels : Option (List Channel))
    (subscriptions : Option (List Subscription)) (s : SequenceStatus) :
    s.pass host now channels subscriptions =
      let derived := ((s.seedMissing now).propagateChannels now (channels.getD [])).propagateSubscriptions now
        (subscriptions.getD [])
      { derived with
        health := { derived.health with observedGeneration := host.sequence.identity.metadata.generation } } := rfl

theorem fetchFailure_eq (host : Work) (now : DateTime) (kind error : Text) (s : SequenceStatus) :
    s.fetchFailure host now kind error =
      match ChildKind.ofPlural? kind with
      | some k => s.markUnknown now k.aspect k.listFailedReason error
      | none => s := by
  unfold fetchFailure Work.markFetchFailure Work.within
  dsimp only
  cases ChildKind.ofPlural? kind <;> rfl

/-- What every step keeps, a run keeps. -/
theorem run_keeps {P : SequenceStatus → Prop} (hstep : ∀ now (op : Operation) s, P s → P (op.apply now s))
    (steps : List Step) {s : SequenceStatus} (h : P s) : P (run steps s) := by
  induction steps generalizing s with
  | nil => exact h
  | cons st steps ih => exact ih (hstep st.1 st.2 s h)

/-! ## What is written besides conditions -/

/-- The address that a channel gives to the whole sequence. -/
def addressOf (c : Option Channel) : Address where
  url := c.bind fun c => c.status.address.bind Address.target?

/-- The fields that a pass rebuilds: the entries, the address and the generation. -/
def rebuilt (host : Work) (now : DateTime) (cs : List Channel) (ss : List Subscription) (s : SequenceStatus) :
    SequenceStatus where
  health := { s.health with observedGeneration := host.sequence.identity.metadata.generation }
  channels := observeAll now .channel s.channels (cs.map Channel.seen)
  subscriptions := observeAll now .subscription s.subscriptions (ss.map Subscription.seen)
  address := if cs = [] then s.address else addressOf cs.head?
  auth := s.auth

section
variable (now : DateTime) (s : SequenceStatus)

theorem markChildren_frame (k : ChildKind) (entries : List StageStatus) :
    ∃ cs, s.markChildren now k entries = s.withConditions cs := by
  unfold markChildren
  split
  · exact ⟨_, rfl⟩
  · exact ⟨_, rfl⟩

theorem setAddress_frame (a : Option Address) :
    ∃ cs, s.setAddress now a = { s with address := { url := a.bind Address.target? } }.withConditions cs := by
  unfold setAddress
  cases a.bind Address.target? with
  | none => exact ⟨_, rfl⟩
  | some url => exact ⟨_, rfl⟩

theorem propagateChannels_frame (cs : List Channel) : ∃ after, s.propagateChannels now cs =
    { s with
      channels := observeAll now .channel s.channels (cs.map Channel.seen)
      address := if cs = [] then s.address else addressOf cs.head? }.withConditions after := by
  cases cs with
  | nil => exact markChildren_frame now _ .channel []
  | cons c cs =>
    obtain ⟨marked, hmarked⟩ := setAddress_frame now s c.status.address
    unfold propagateChannels
    dsimp only
    rw [hmarked]
    obtain ⟨after, hafter⟩ := markChildren_frame now _ .channel _
    exact ⟨after, hafter⟩

theorem propagateSubscriptions_frame (ss : List Subscription) : ∃ after, s.propagateSubscriptions now ss =
    { s with
      subscriptions := observeAll now .subscription s.subscriptions (ss.map Subscription.seen) }.withConditions after :=
  markChildren_frame now _ .subscription _

theorem pass_frame (host : Work) (channels : Option (List Channel)) (subscriptions : Option (List Subscription)) :
    ∃ after, s.pass host now channels subscriptions =
      (s.rebuilt host now (channels.getD []) (subscriptions.getD [])).withConditions after := by
  rw [pass_eq]
  obtain ⟨_, hchannels⟩ := propagateChannels_frame now (s.seedMissing now) (channels.getD [])
  rw [hchannels]
  obtain ⟨after, hafter⟩ := propagateSubscriptions_frame now _ (subscriptions.getD [])
  rw [hafter]
  exact ⟨after, rfl⟩

/-- What an operation does to the rest of a status. -/
def Operation.effect (now : DateTime) : Operation → SequenceStatus → SequenceStatus
  | .propagateChannels channels, s => { s with
      channels := observeAll now .channel s.channels ((channels.getD []).map Channel.seen)
      address := if channels.getD [] = [] then s.address else addressOf (channels.getD []).head? }
  | .propagateSubscriptions subscriptions, s => { s with
      subscriptions := observeAll now .subscription s.subscriptions ((subscriptions.getD []).map Subscription.seen) }
  | .pass host channels subscriptions, s => s.rebuilt host now (channels.getD []) (subscriptions.getD [])
  | _, s => s

theorem apply_frame (op : Operation) : ∃ cs, op.apply now s = (op.effect now s).withConditions cs := by
  cases op with
  | propagateChannels channels => exact propagateChannels_frame now s (channels.getD [])
  | propagateSubscriptions subscriptions => exact propagateSubscriptions_frame now s (subscriptions.getD [])
  | pass host channels subscriptions => exact pass_frame now s host channels subscriptions
  | fetchFailure host kind error =>
    show ∃ cs, s.fetchFailure host now kind error = s.withConditions cs
    rw [fetchFailure_eq]
    split
    · exact ⟨_, rfl⟩
    · exact ⟨s.conditions, rfl⟩
  | _ => exact ⟨_, rfl⟩

theorem annotations_apply (op : Operation) : (op.apply now s).health.annotations = s.health.annotations := by
  obtain ⟨_, hframe⟩ := apply_frame now s op
  rw [hframe]
  cases op <;> rfl

theorem auth_apply (op : Operation) : (op.apply now s).auth = s.auth := by
  obtain ⟨_, hframe⟩ := apply_frame now s op
  rw [hframe]
  cases op <;> rfl

end

/-! ## What is written to the conditions

A property of conditions has to be checked for seeds and marks only. -/

/-- Seeds and the marks that a status knows keep a property of conditions. -/
structure Kept (P : Conditions → Prop) : Prop where
  seed : ∀ now cs, P cs → P (sequenceConditions.seedMissing now cs).conditions
  markTrue : ∀ now (a : Aspect) reason message cs, P cs →
    P (sequenceConditions.markTrueWith now a.type reason message cs).conditions
  markUnknown : ∀ now (a : Aspect) reason message cs, P cs →
    P (sequenceConditions.markUnknown now a.type reason message cs).conditions
  markFalse : ∀ now reason message cs, P cs →
    P (sequenceConditions.markFalse now Aspect.identity.type reason message cs).conditions

namespace Kept

variable {P : Conditions → Prop} (hP : Kept P) {now : DateTime} {s : SequenceStatus}
include hP

theorem setAddress (a : Option Address) (h : P s.conditions) : P (s.setAddress now a).conditions := by
  unfold SequenceStatus.setAddress
  split
  · exact hP.markTrue now .address "" "" s.conditions h
  · exact hP.markUnknown now .address _ _ s.conditions h

theorem markChildren (k : ChildKind) (entries : List StageStatus) (h : P s.conditions) :
    P (s.markChildren now k entries).conditions := by
  unfold SequenceStatus.markChildren
  split
  · exact hP.markTrue now k.aspect "" "" s.conditions h
  · exact hP.markUnknown now k.aspect _ _ s.conditions h

theorem propagateChannels (cs : List Channel) (h : P s.conditions) : P (s.propagateChannels now cs).conditions := by
  unfold SequenceStatus.propagateChannels
  refine hP.markChildren _ _ ?_
  cases cs with
  | nil => exact h
  | cons c cs => exact hP.setAddress c.status.address h

theorem propagateSubscriptions (ss : List Subscription) (h : P s.conditions) :
    P (s.propagateSubscriptions now ss).conditions :=
  hP.markChildren _ _ h

theorem pass (host : Work) (channels : Option (List Channel)) (subscriptions : Option (List Subscription))
    (h : P s.conditions) : P (s.pass host now channels subscriptions).conditions := by
  rw [pass_eq]
  exact hP.propagateSubscriptions _ (hP.propagateChannels _ (hP.seed now s.conditions h))

theorem apply (op : Operation) (h : P s.conditions) : P (op.apply now s).conditions := by
  cases op with
  | seedMissing => exact hP.seed now s.conditions h
  | propagateChannels channels => exact hP.propagateChannels _ h
  | propagateSubscriptions subscriptions => exact hP.propagateSubscriptions _ h
  | markUnknown a reason message => exact hP.markUnknown now a reason message s.conditions h
  | identityCreated => exact hP.markTrue now .identity "" "" s.conditions h
  | identityCreatedWith reason message => exact hP.markTrue now .identity reason message s.conditions h
  | identityFailed reason message => exact hP.markFalse now reason message s.conditions h
  | pass host channels subscriptions => exact hP.pass host channels subscriptions h
  | fetchFailure host kind error =>
    show P (s.fetchFailure host now kind error).conditions
    rw [fetchFailure_eq]
    split
    · exact hP.markUnknown now _ _ error s.conditions h
    · exact h

theorem run (steps : List Step) (h : P s.conditions) : P (run steps s).conditions :=
  run_keeps (P := fun s => P s.conditions) (fun _ op _ => hP.apply op) steps h

end Kept

/-! ## What holds of the conditions all along -/

/-- The conditions of a status that came about by its own operations. -/
structure Regular (cs : Conditions) : Prop where
  sorted : cs.Sorted
  backed : sequenceConditions.Backed cs
  /-- False is kept for the identity. -/
  only : ∀ a : Aspect, cs.statusOf? a.type = some .no → a = .identity
  /-- A false happy condition outlives at most the recovery of the identity. -/
  decided : cs.statusOf? sequenceConditions.happy = some .no →
    cs.statusOf? Aspect.identity.type = some .no ∨ cs.statusOf? Aspect.identity.type = some .yes

section
variable (now : DateTime) (reason message : Text) {cs : Conditions} (hd : cs.Distinct) (a b : Aspect)
include hd

theorem statusOf?_aspect_markTrueWith :
    (sequenceConditions.markTrueWith now a.type reason message cs).conditions.statusOf? b.type =
      if b = a then some .yes else cs.statusOf? b.type :=
  (statusOf?_markTrueWith now reason message hd a.name_ne_happy b.type_mem).trans (by simp [Aspect.name])

theorem statusOf?_aspect_markUnknown :
    (sequenceConditions.markUnknown now a.type reason message cs).conditions.statusOf? b.type =
      if b = a then some .unknown else cs.statusOf? b.type :=
  (statusOf?_markUnknown now reason message hd a.name_ne_happy b.type_mem).trans (by simp [Aspect.name])

theorem statusOf?_aspect_markFalse :
    (sequenceConditions.markFalse now a.type reason message cs).conditions.statusOf? b.type =
      if b = a then some .no else cs.statusOf? b.type :=
  (statusOf?_markFalse now reason message hd a.name_ne_happy b.type_mem).trans (by simp [Aspect.name])

omit b

theorem statusOf?_happy_markTrueWith_aspect :
    (sequenceConditions.markTrueWith now a.type reason message cs).conditions.statusOf? sequenceConditions.happy =
      if sequenceConditions.allHold (sequenceConditions.markTrueWith now a.type reason message cs).conditions then
        some .yes
      else cs.statusOf? sequenceConditions.happy :=
  (statusOf?_happy_markTrueWith now reason message hd a.name_ne_happy wellNamed_sequenceConditions :)

theorem statusOf?_happy_markUnknown_aspect :
    (sequenceConditions.markUnknown now a.type reason message cs).conditions.statusOf? sequenceConditions.happy =
      if sequenceConditions.anyFails (sequenceConditions.markUnknown now a.type reason message cs).conditions then
        some .no
      else some .unknown :=
  (statusOf?_happy_markUnknown now reason message hd a.name_ne_happy wellNamed_sequenceConditions).trans
    (by rw [if_pos (show a.name.val ∈ sequenceConditions.dependents from a.type_mem)]; rfl)

end

theorem regular_nil : Regular [] :=
  ⟨sorted_nil, backed_nil (by decide), by simp [statusOf?, get?], by simp [statusOf?, get?]⟩

theorem regular_seedMissing {cs : Conditions} (now : DateTime) (h : Regular cs) :
    Regular (sequenceConditions.seedMissing now cs).conditions := by
  have hn := wellNamed_sequenceConditions
  have hhappy := statusOf?_happy_seedMissing hn now cs
  have haspect := fun a : Aspect => statusOf?_seedMissing hn now cs a.type_mem
  refine ⟨(seedMissing_spec hn now cs).1.sorted h.sorted, h.backed.seedMissing hn, fun a hno => ?_, fun hno => ?_⟩
  · -- a seed is never false
    rw [haspect] at hno
    refine h.only a ?_
    cases hold : cs.statusOf? a.type with
    | none =>
      rw [hold] at hno
      unfold seedStatus at hno
      split at hno <;> simp at hno
    | some st => simpa [hold] using hno
  · rw [haspect]
    rw [hhappy] at hno
    have hold : cs.statusOf? sequenceConditions.happy = some .no := by
      cases hold : cs.statusOf? sequenceConditions.happy <;> simp_all
    rcases h.decided hold with hid | hid <;> simp [hid]

theorem regular_markTrueWith {cs : Conditions} (now : DateTime) (a : Aspect) (reason message : Text) (h : Regular cs) :
    Regular (sequenceConditions.markTrueWith now a.type reason message cs).conditions := by
  have hn := wellNamed_sequenceConditions
  have hd := h.backed.distinct
  have haspect := fun b => statusOf?_aspect_markTrueWith now reason message hd a b
  have hhappy := statusOf?_happy_markTrueWith_aspect now reason message hd a
  refine ⟨(written_markTrueWith _).sorted h.sorted, h.backed.markTrueWith a.name hn a.type_ne_happy,
    fun b hno => ?_, fun hno => ?_⟩
  · rw [haspect] at hno
    split at hno
    · simp at hno
    · exact h.only b hno
  · -- the happy condition is false as before, and the identity is true if it is `a`
    have hold : cs.statusOf? sequenceConditions.happy = some .no := by
      rw [hhappy] at hno
      split at hno
      · simp at hno
      · exact hno
    rw [haspect]
    split
    · exact Or.inr rfl
    · exact h.decided hold

theorem regular_markUnknown {cs : Conditions} (now : DateTime) (a : Aspect) (reason message : Text) (h : Regular cs) :
    Regular (sequenceConditions.markUnknown now a.type reason message cs).conditions := by
  have hn := wellNamed_sequenceConditions
  have hd := h.backed.distinct
  have haspect := fun b => statusOf?_aspect_markUnknown now reason message hd a b
  have hhappy := statusOf?_happy_markUnknown_aspect now reason message hd a
  have honly : ∀ b : Aspect,
      (sequenceConditions.markUnknown now a.type reason message cs).conditions.statusOf? b.type = some .no →
        b = .identity := by
    intro b hno
    rw [haspect] at hno
    split at hno
    · simp at hno
    · exact h.only b hno
  refine ⟨(written_markUnknown _).sorted h.sorted, h.backed.markUnknown a.name hn a.type_ne_happy, honly,
    fun hno => ?_⟩
  -- the happy condition is false for a dependent that is, and only the identity can be
  rw [hhappy] at hno
  split at hno
  · rename_i hfails
    obtain ⟨d, hdep, hfail⟩ := anyFails_iff.1 hfails
    obtain ⟨b, rfl⟩ := Aspect.exists_of_mem hdep
    rw [← honly b hfail]
    exact Or.inl hfail
  · simp at hno

theorem regular_markFalse {cs : Conditions} (now : DateTime) (reason message : Text) (h : Regular cs) :
    Regular (sequenceConditions.markFalse now Aspect.identity.type reason message cs).conditions := by
  have haspect := fun b => statusOf?_aspect_markFalse now reason message h.backed.distinct .identity b
  refine ⟨(written_markFalse _).sorted h.sorted, h.backed.markFalse Aspect.identity.name
    wellNamed_sequenceConditions Aspect.identity.type_ne_happy, fun b hno => ?_, fun _ => ?_⟩
  · rw [haspect] at hno
    split at hno
    · assumption
    · exact h.only b hno
  · rw [haspect]
    exact Or.inl (if_pos rfl)

theorem kept_regular : Kept Regular :=
  ⟨fun now _ => regular_seedMissing now, fun now a r m _ => regular_markTrueWith now a r m,
    fun now a r m _ => regular_markUnknown now a r m, fun now r m _ => regular_markFalse now r m⟩

/-- In a run nothing is seeded as true: where the happy condition is, no dependent is missing. -/
theorem statusOf?_aspect_seedMissing (now : DateTime) {cs : Conditions} (h : Regular cs) (a : Aspect) :
    (sequenceConditions.seedMissing now cs).conditions.statusOf? a.type =
      some ((cs.statusOf? a.type).getD .unknown) := by
  rw [statusOf?_seedMissing wellNamed_sequenceConditions now cs a.type_mem]
  cases hold : cs.statusOf? a.type with
  | some st => rfl
  | none =>
    have hno : cs.statusOf? sequenceConditions.happy ≠ some .yes := by
      intro hyes
      have := h.backed.true_iff.1 hyes _ a.type_mem
      simp [hold] at this
    simp [seedStatus, holds, hno]

theorem regular_reached (steps : List Step) : Regular (reached steps).conditions :=
  kept_regular.run steps regular_nil

/-- **What can be false.** After any run, whatever the children said of themselves, no aspect but the identity is false.
While the identity is false, so is the happy condition; while it is missing or unknown, the happy condition is not. -/
theorem failures_of_reached (steps : List Step) :
    (∀ a : Aspect, (reached steps).conditions.statusOf? a.type = some .no → a = .identity) ∧
    ((reached steps).conditions.statusOf? Aspect.identity.type = some .no →
      (reached steps).conditions.statusOf? sequenceConditions.happy = some .no) ∧
    ((reached steps).conditions.statusOf? Aspect.identity.type ∈ [none, some .unknown] →
      (reached steps).conditions.statusOf? sequenceConditions.happy ≠ some .no) := by
  have h := regular_reached steps
  refine ⟨h.only, h.backed.false_of _ Aspect.identity.type_mem, fun hid hno => ?_⟩
  rcases h.decided hno with hfailed | hcreated
  · simp [hfailed] at hid
  · simp [hcreated] at hid

end SequenceStatus

end Readiness
