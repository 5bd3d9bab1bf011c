import Readiness.Proofs.Sequence.Troubles

/-!
# What a report says after any stored status

A report lists the dependents that are not true and says whether the happy condition is, and the two should agree. After
a run they do. But a status can also come from a manifest, with whatever someone wrote into its conditions, and a pass
computes nothing afresh. Trouble puts the happy condition right: it settles it, and from there on a happy condition that
is true has been earned (`Earned`). Without trouble the pass only raises, and a happy condition that was stored as true
stays so, even over an identity that is not true, since no pass looks at the identity.
-/
namespace Readiness

open Calendar ConditionSet Conditions Declaration SequenceStatus

/-! ## Reports -/

namespace Report

variable {s : Sequence} {previous : Option Status} {channelCount subscriptionCount : Nat}

theorem ready_ofSequence : (ofSequence s previous channelCount subscriptionCount).ready =
    s.status.conditions.holds sequenceConditions.happy := by
  have hstatus : (ofSequence s previous channelCount subscriptionCount).status =
      (s.status.conditions.statusOf? sequenceConditions.happy).getD .unknown := by
    simp only [ofSequence, statusOf?]
    cases s.status.conditions.get? sequenceConditions.happy <;> rfl
  rw [ready, holds, hstatus]
  cases s.status.conditions.statusOf? sequenceConditions.happy <;> simp

theorem mem_notReady_ofSequence {d : String} (hdep : d ∈ sequenceConditions.dependents) :
    (d : Text) ∈ (ofSequence s previous channelCount subscriptionCount).notReady ↔
      s.status.conditions.holds d = false := by
  simp [ofSequence, hdep]

theorem notReady_ofSequence_eq_nil : (ofSequence s previous channelCount subscriptionCount).notReady = [] ↔
    sequenceConditions.allHold s.status.conditions = true := by
  simp [ofSequence, allHold]

end Report

namespace ConditionSet

variable {s : ConditionSet} {cs : Conditions}

/-- A happy condition that is true has every dependent behind it. -/
def Earned (s : ConditionSet) (cs : Conditions) : Prop :=
  cs.statusOf? s.happy = some .yes → s.allHold cs = true

theorem Settled.earned (h : s.Settled cs) : s.Earned cs := by
  intro hyes
  have hverdict : s.verdict cs = .yes := Option.some.inj (h.symm.trans hyes)
  unfold verdict at hverdict
  split at hverdict
  · simp at hverdict
  · split at hverdict
    · assumption
    · simp at hverdict

theorem allHold_sequenceConditions : sequenceConditions.allHold cs = true ↔ ∀ a : Aspect, cs.holds a.type = true := by
  rw [allHold_iff]
  refine ⟨fun h a => holds_iff.2 (h _ a.type_mem), fun h d hdep => ?_⟩
  obtain ⟨a, rfl⟩ := Aspect.exists_of_mem hdep
  exact holds_iff.1 (h a)

end ConditionSet

namespace Finding

variable (now : DateTime) {cs : Conditions}

theorem earned_mark (hd : cs.Distinct) (f : Finding) (he : sequenceConditions.Earned cs) :
    sequenceConditions.Earned (f.mark now cs) := by
  cases hf : f.trouble with
  | none =>
    intro hyes
    rw [statusOf?, get?_happy_mark_of_none now hd hf] at hyes
    split at hyes
    · assumption
    · exact allHold_mark_of_none now hd hf (he hyes)
  | some t => exact (settled_mark_of_trouble now hd f (by simp [hf])).earned

/-- Trouble makes sure of it, whatever was stored. -/
theorem earned_marks (hd : cs.Distinct) (fs : List Finding)
    (h : sequenceConditions.Earned cs ∨ ∃ f ∈ fs, f.trouble ≠ none) :
    sequenceConditions.Earned (marks now fs cs) := by
  induction fs generalizing cs with
  | nil =>
    rcases h with he | ⟨f, hf, _⟩
    · exact he
    · simp at hf
  | cons f fs ih =>
    refine ih ((written_mark now f).distinct hd) ?_
    rcases h with he | ⟨g, hg, htrouble⟩
    · exact Or.inl (earned_mark now hd f he)
    · rcases List.mem_cons.1 hg with rfl | hg
      · exact Or.inl (settled_mark_of_trouble now hd g htrouble).earned
      · exact Or.inr ⟨g, hg, htrouble⟩

end Finding

namespace SequenceStatus

open Finding

/-! ## Passes over stored conditions -/

variable {s : SequenceStatus} (host : Work) (now : DateTime) (channels : Option (List Channel))
  (subscriptions : Option (List Subscription))

/-- A pass leaves the identity as it was stored, and trusts a happy condition that is true over a missing one. -/
theorem statusOf?_identity_pass (s : SequenceStatus) :
    (s.pass host now channels subscriptions).conditions.statusOf? Aspect.identity.type =
      some ((s.conditions.statusOf? Aspect.identity.type).getD (sequenceConditions.seedStatus s.conditions)) := by
  rw [marks_of_pass, statusOf?_marks_of_notMem now _ (aspect_ne_identity _ _)]
  exact statusOf?_seedMissing wellNamed_sequenceConditions now s.conditions Aspect.identity.type_mem

section
variable (hd : s.conditions.Distinct)
include hd

theorem distinct_seeded (now : DateTime) : (s.seeded now).Distinct :=
  (seedMissing_spec wellNamed_sequenceConditions now s.conditions).1.distinct hd

/-- If every dependent is true after a pass, so is the happy condition. -/
theorem happy_of_allHold_pass
    (hall : sequenceConditions.allHold (s.pass host now channels subscriptions).conditions = true) :
    (s.pass host now channels subscriptions).conditions.holds sequenceConditions.happy = true := by
  rw [marks_of_pass] at hall ⊢
  obtain ⟨c, hc, hraised⟩ := raised_of_marks now (distinct_seeded hd now) (ofChannels (channels.getD [])) hall
  rw [holds_iff, statusOf?]
  refine (congrArg (Option.map (·.status)) hc).trans ?_
  exact congrArg some (Condition.sameContent_iff.1 hraised).2.1.symm

/-- Without trouble all but the identity is true after a pass. -/
theorem allHold_pass_iff (hnone : ∀ f ∈ ofPass (channels.getD []) (subscriptions.getD []), f.trouble = none) :
    sequenceConditions.allHold (s.pass host now channels subscriptions).conditions = true ↔
      (s.pass host now channels subscriptions).conditions.statusOf? Aspect.identity.type = some .yes := by
  refine ⟨fun h => allHold_iff.1 h _ Aspect.identity.type_mem, fun hyes => allHold_iff.2 fun d hdep => ?_⟩
  obtain ⟨b, rfl⟩ := Aspect.exists_of_mem hdep
  by_cases hb : b = .identity
  · rwa [hb]
  · rw [marks_of_pass]
    exact statusOf?_marks_of_no_trouble now (distinct_seeded hd now) hnone hb

/-- Without trouble an identity that is true makes the happy condition true, and any other leaves it as stored. -/
theorem statusOf?_happy_pass_of_none
    (hnone : ∀ f ∈ ofPass (channels.getD []) (subscriptions.getD []), f.trouble = none) :
    (s.pass host now channels subscriptions).conditions.statusOf? sequenceConditions.happy =
      if (s.pass host now channels subscriptions).conditions.statusOf? Aspect.identity.type = some .yes then some .yes
      else some ((s.conditions.statusOf? sequenceConditions.happy).getD .unknown) := by
  have hraise := statusOf?_happy_marks_of_none now (distinct_seeded hd now) _ (by simp [ofPass]) hnone
  rw [← marks_of_pass host] at hraise
  simp only [allHold_pass_iff host now channels subscriptions hd hnone] at hraise
  rw [hraise]
  split
  · rfl
  · exact statusOf?_happy_seedMissing wellNamed_sequenceConditions now s.conditions

/-- After a pass a true happy condition is earned, but in one case: there is no trouble, and it was stored as true over
an identity that was stored as something else. -/
theorem earned_pass_iff :
    sequenceConditions.Earned (s.pass host now channels subscriptions).conditions ↔
      ¬ (s.conditions.statusOf? sequenceConditions.happy = some .yes ∧ s.conditions.get? Aspect.identity.type ≠ none ∧
        s.conditions.statusOf? Aspect.identity.type ≠ some .yes ∧
        troubles (ofPass (channels.getD []) (subscriptions.getD [])) = []) := by
  by_cases htroubles : troubles (ofPass (channels.getD []) (subscriptions.getD [])) = []
  · have hnone := troubles_eq_nil.1 htroubles
    have hhappy := statusOf?_happy_pass_of_none host now channels subscriptions hd hnone
    have hidentity := statusOf?_identity_pass host now channels subscriptions s
    rw [Earned, allHold_pass_iff host now channels subscriptions hd hnone]
    by_cases hid : (s.pass host now channels subscriptions).conditions.statusOf? Aspect.identity.type = some .yes
    · refine iff_of_true (fun _ => hid) ?_
      rintro ⟨_, hpresent, hnot, _⟩
      obtain ⟨st, hst⟩ := Option.ne_none_iff_exists'.1 fun h => hpresent (statusOf?_eq_none.1 h)
      rw [hidentity, hst] at hid
      exact hnot (hst.trans hid)
    · rw [if_neg hid] at hhappy
      rw [hhappy]
      refine ⟨fun hearned ⟨hyes, _⟩ => hid (hearned (by rw [hyes]; rfl)), fun hexcept hyes => ?_⟩
      have hstored : s.conditions.statusOf? sequenceConditions.happy = some .yes := by
        cases h : s.conditions.statusOf? sequenceConditions.happy <;> simp_all
      -- the identity is there, as a missing one would have been seeded true
      rw [hidentity] at hid
      have hpresent : s.conditions.get? Aspect.identity.type ≠ none :=
        fun h => hid (by simp [statusOf?_eq_none.2 h, seedStatus, holds, hstored])
      exact absurd ⟨hstored, hpresent, fun h => hid (by rw [h]; rfl), htroubles⟩ hexcept
  · refine iff_of_true ?_ fun h => htroubles h.2.2.2
    rw [marks_of_pass]
    exact earned_marks now (distinct_seeded hd now) _ (.inr (exists_of_troubles htroubles))

end

/-- **A report on a stored status.** Whatever conditions a sequence comes with, as long as no type is repeated: its
report is ready exactly if the happy condition is true, and lists nothing exactly if every dependent is. If it lists
nothing, it is ready. That it lists nothing if it is ready holds exactly unless the pass found no trouble and the stored
conditions had the happy one true and the identity there and not true. -/
theorem report_of_stored (host : Work) (now : DateTime) (channels : Option (List Channel))
    (subscriptions : Option (List Subscription)) (hd : host.sequence.status.conditions.Distinct) :
    let stored := host.sequence.status.conditions
    let result := host.reconcile now (channels.getD []) (subscriptions.getD [])
    let report := result.1
    let after := result.2.sequence.status.conditions
    (report.ready = true ↔ after.holds sequenceConditions.happy = true) ∧
    (report.notReady = [] ↔ ∀ a : Aspect, after.holds a.type = true) ∧
    (report.notReady = [] → report.ready = true) ∧
    ((report.ready = true → report.notReady = []) ↔
      ¬ (stored.holds sequenceConditions.happy = true ∧ stored.has Aspect.identity.type = true ∧
        stored.holds Aspect.identity.type = false ∧
        troubles (ofPass (channels.getD []) (subscriptions.getD [])) = [])) := by
  intro stored result report after
  have hafter : after = (host.sequence.status.pass host now channels subscriptions).conditions := rfl
  have hready : report.ready = after.holds sequenceConditions.happy := Report.ready_ofSequence
  have hlisted : report.notReady = [] ↔ sequenceConditions.allHold after = true := Report.notReady_ofSequence_eq_nil
  refine ⟨by rw [hready], hlisted.trans allHold_sequenceConditions, fun h => ?_, ?_⟩
  · rw [hready, hafter]
    exact happy_of_allHold_pass host now channels subscriptions hd (hlisted.1 h)
  · have hnot : stored.holds Aspect.identity.type = false ↔ stored.statusOf? Aspect.identity.type ≠ some .yes := by
      rw [← Bool.not_eq_true, holds_iff]
    rw [hready, hlisted, holds_iff, holds_iff, has_iff, hnot]
    exact earned_pass_iff host now channels subscriptions hd

/-! The case left out, with children that are all as they should be. -/

theorem fits_noName : 0 ≤ "".length ∧ "".length ≤ 253 := by decide

theorem fits_noSpace : 0 ≤ "".length ∧ "".length ≤ 63 := by decide

def nameless : Identity where
  metadata := { name := ⟨"", fits_noName⟩, space := ⟨"", fits_noSpace⟩ }

/-- Stored conditions that claim to be ready while the identity is unknown. -/
def premature : Conditions :=
  [{ type := Aspect.identity.name }, { type := ⟨"Ready", fits_ready⟩, status := .yes }]

def prematureHost : Work where
  sequence := { identity := nameless, status := ({} : SequenceStatus).withConditions premature }

def readyChannel : Channel where
  identity := nameless
  status := {
    health := { conditions := [{ type := ⟨"Ready", fits_ready⟩, status := .yes }] }
    address := some { url := some "http://first.example" } }

def readySubscription : Subscription where
  identity := nameless
  status := { health := { conditions := [{ type := ⟨"Ready", fits_ready⟩, status := .yes }] } }

theorem report_of_stored_premature :
    let result := prematureHost.reconcile default [readyChannel] [readySubscription]
    let report := result.1
    let after := result.2.sequence.status.conditions
    premature.Distinct ∧
    (report.ready = true ↔ after.holds sequenceConditions.happy = true) ∧
    (report.notReady = [] ↔ ∀ a : Aspect, after.holds a.type = true) ∧
    (report.notReady = [] → report.ready = true) ∧
    ((report.ready = true → report.notReady = []) ↔
      ¬ (premature.holds sequenceConditions.happy = true ∧ premature.has Aspect.identity.type = true ∧
        premature.holds Aspect.identity.type = false ∧ troubles (ofPass [readyChannel] [readySubscription]) = [])) :=
  ⟨by decide, report_of_stored prematureHost default (some [readyChannel]) (some [readySubscription]) (by decide)⟩

/-- The pass keeps what was claimed, and its report is ready and lists the identity as not ready. -/
theorem ready_report_lists_identity :
    let report := (prematureHost.reconcile default [readyChannel] [readySubscription]).1
    premature.Distinct ∧ report.ready = true ∧ report.notReady = [(Aspect.identity.type : Text)] := by
  decide

end SequenceStatus

end Readiness
