import Readiness.Proofs.Sequence.Troubles

/-!
# In which order children are propagated

The two propagations write different fields, and what they find is about different aspects, so neither undoes what the
other has written. They meet in the happy condition, which both of them write, and its reason, message and time do
depend on who is last. Its status does not: as soon as there is trouble it tells the verdict of the dependents, and
without trouble it is true if they all are and as it was before if not.
-/
namespace Readiness

open Calendar ConditionSet Conditions Declaration SequenceStatus

namespace Finding

variable (now : DateTime) {cs : Conditions} {fs gs : List Finding}

/-- Marks of distinct aspects may change places, as far as all but the happy condition goes. -/
theorem get?_marks_perm (hd : cs.Distinct) (hnd : (fs.map aspect).Nodup) (hp : fs.Perm gs) {type : String}
    (ht : type ≠ sequenceConditions.happy) : (marks now fs cs).get? type = (marks now gs cs).get? type := by
  by_cases hfound : ∃ f ∈ fs, f.aspect.type = type
  · obtain ⟨f, hf, rfl⟩ := hfound
    have hnd' : (gs.map aspect).Nodup := (hp.map aspect).nodup_iff.1 hnd
    rw [get?_marks_of_mem now hd fs hnd f hf, get?_marks_of_mem now hd gs hnd' f (hp.mem_iff.1 hf)]
  · have hframe : ∀ hs : List Finding, hs.Perm fs → (marks now hs cs).get? type = cs.get? type := by
      intro hs hps
      refine (written_marks now hs).get?_eq ?_
      simp only [List.mem_append, List.mem_map, List.mem_singleton, ht, or_false]
      exact fun ⟨f, hf, e⟩ => hfound ⟨f, hps.mem_iff.1 hf, e⟩
    rw [hframe fs (.refl fs), hframe gs hp.symm]

theorem statusOf?_happy_marks_perm (h : Regular cs) (hid : ∀ f ∈ fs, f.aspect ≠ .identity)
    (hnd : (fs.map aspect).Nodup) (hne : fs ≠ []) (hp : fs.Perm gs) :
    (marks now fs cs).statusOf? sequenceConditions.happy = (marks now gs cs).statusOf? sequenceConditions.happy := by
  have hd := h.backed.distinct
  have hdependents : ∀ d ∈ sequenceConditions.dependents,
      (marks now fs cs).statusOf? d = (marks now gs cs).statusOf? d :=
    fun d hdep => statusOf?_eq_of_get?_eq (get?_marks_perm now hd hnd hp (ne_happy hdep))
  by_cases htrouble : ∃ f ∈ fs, f.trouble ≠ none
  · obtain ⟨f, hf, hft⟩ := htrouble
    have hfs : sequenceConditions.Settled (marks now fs cs) := settled_marks now h fs hid (.inr ⟨f, hf, hft⟩)
    have hgs : sequenceConditions.Settled (marks now gs cs) :=
      settled_marks now h gs (fun g hg => hid g (hp.mem_iff.2 hg)) (.inr ⟨f, hp.mem_iff.1 hf, hft⟩)
    rw [hfs, hgs, verdict_congr hdependents]
  · have hnone : ∀ f ∈ fs, f.trouble = none :=
      fun f hf => Classical.byContradiction fun hft => htrouble ⟨f, hf, hft⟩
    have hne' : gs ≠ [] := fun e => hne (by simpa [e] using hp)
    rw [statusOf?_happy_marks_of_none now hd fs hne hnone,
      statusOf?_happy_marks_of_none now hd gs hne' fun g hg => hnone g (hp.mem_iff.2 hg), allHold_congr hdependents]

end Finding

namespace SequenceStatus

open Finding

section
variable (now : DateTime) (s : SequenceStatus) (cs : List Channel) (ss : List Subscription)

/-- Besides conditions the propagations write fields of their own. -/
theorem propagations_frame :
    (s.propagateChannels now cs).propagateSubscriptions now ss =
      ((s.propagateSubscriptions now ss).propagateChannels now cs).withConditions
        ((s.propagateChannels now cs).propagateSubscriptions now ss).conditions := by
  obtain ⟨_, hchannels⟩ := propagateChannels_frame now s cs
  obtain ⟨_, hfirst⟩ := propagateSubscriptions_frame now (s.propagateChannels now cs) ss
  obtain ⟨_, hsubscriptions⟩ := propagateSubscriptions_frame now s ss
  obtain ⟨_, hsecond⟩ := propagateChannels_frame now (s.propagateSubscriptions now ss) cs
  rw [hfirst, hchannels, hsecond, hsubscriptions]
  rfl

theorem conditions_propagations_swap :
    ((s.propagateSubscriptions now ss).propagateChannels now cs).conditions =
      marks now (ofChildren .subscription (ss.map Subscription.ready?) :: ofChannels cs) s.conditions := by
  rw [conditions_propagateChannels, conditions_propagateSubscriptions]
  rfl

end

/-- **The order of the propagations.** After any run, initialised or not, propagating channels and then subscriptions
leaves the same entries and the same address as the other way round, and every other field but the conditions; each
condition but the happy one is the same, its time included, and the happy one is there in both or in neither, with the
same status. -/
theorem propagation_order (steps : List Step) (now : DateTime) (channels : Option (List Channel))
    (subscriptions : Option (List Subscription)) :
    let first := run [(now, .propagateChannels channels), (now, .propagateSubscriptions subscriptions)] (reached steps)
    let second := run [(now, .propagateSubscriptions subscriptions), (now, .propagateChannels channels)] (reached steps)
    first.channels = second.channels ∧ first.subscriptions = second.subscriptions ∧ first.address = second.address ∧
    first = second.withConditions first.conditions ∧
    (∀ type, type ≠ sequenceConditions.happy → first.conditions.get? type = second.conditions.get? type) ∧
    first.conditions.statusOf? sequenceConditions.happy = second.conditions.statusOf? sequenceConditions.happy := by
  intro first second
  have hreg := regular_reached steps
  have hframe : first = second.withConditions first.conditions := propagations_frame now _ _ _
  have hfirst : first.conditions = _ := conditions_propagations _ _
  have hsecond : second.conditions = _ := conditions_propagations_swap now _ _ _
  have hperm := List.perm_append_singleton (ofChildren .subscription ((subscriptions.getD []).map Subscription.ready?))
    (ofChannels (channels.getD []))
  have hnd := nodup_ofPass (channels.getD []) (subscriptions.getD [])
  have hid := aspect_ne_identity (channels.getD []) (subscriptions.getD [])
  have hne : ofPass (channels.getD []) (subscriptions.getD []) ≠ [] := by simp [ofPass]
  refine ⟨(congrArg SequenceStatus.channels hframe :), (congrArg SequenceStatus.subscriptions hframe :),
    (congrArg SequenceStatus.address hframe :), hframe, fun type ht => ?_, ?_⟩
  · rw [hfirst, hsecond]
    exact get?_marks_perm now hreg.backed.distinct hnd hperm ht
  · rw [hfirst, hsecond]
    exact statusOf?_happy_marks_perm now hreg hid hnd hne hperm

end SequenceStatus

end Readiness
