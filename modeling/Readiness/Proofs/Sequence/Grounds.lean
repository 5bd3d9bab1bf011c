import Readiness.Proofs.Sequence.Reports

/-!
# What a report blames

A report that is not ready gives one reason and one message, those of the happy condition, and lists every dependent
that is not true. One would look for the cause among them. The happy condition copies its grounds from the mark that
wrote it last, and marking true does not revisit them. Under a failed identity they are those of the identity
(`Accounted`), and where a pass finds trouble they are those of the last trouble; but a pass that finds none, with an
identity that is merely unknown, leaves them as they were, and they may be those of a dependent that is true by now.
-/
namespace Readiness

open Calendar ConditionSet Conditions Declaration SequenceStatus

/-! ## Grounds -/

/-- Reason and message. -/
def Condition.grounds (c : Condition) : Text × Text := (c.reason, c.message)

@[simp] theorem Condition.grounds_recorded (now : DateTime) (c : Condition) (old : Option Condition) :
    (c.recorded now old).grounds = c.grounds := by
  obtain ⟨_, _, _, hreason, hmessage⟩ := sameContent_iff.1 (recorded_sameContent now c old)
  rw [grounds, grounds, hreason, hmessage]

/-- The grounds of a type; what is missing has empty ones. -/
def Conditions.grounds (cs : Conditions) (type : String) : Text × Text :=
  (cs.get? type).elim ("", "") Condition.grounds

theorem Conditions.grounds_eq_of_get?_eq {cs ds : Conditions} {type : String} (h : cs.get? type = ds.get? type) :
    cs.grounds type = ds.grounds type := by
  rw [grounds, grounds, h]

theorem Conditions.grounds_of_get? {cs : Conditions} {type : String} {c : Condition} (h : cs.get? type = some c) :
    cs.grounds type = c.grounds := by
  rw [grounds, h]
  rfl

namespace Report

/-- The reason and the message are those that some condition listed as not ready has. -/
def Blames (r : Report) (cs : Conditions) : Prop :=
  ∃ d ∈ sequenceConditions.dependents, (d : Text) ∈ r.notReady ∧
    (cs.get? d).map Condition.grounds = some (r.reason, r.message)

instance (r : Report) (cs : Conditions) : Decidable (r.Blames cs) :=
  inferInstanceAs (Decidable (∃ d ∈ sequenceConditions.dependents, _))

variable {s : Sequence} {previous : Option Status} {channelCount subscriptionCount : Nat}

theorem grounds_ofSequence :
    let r := ofSequence s previous channelCount subscriptionCount
    (r.reason, r.message) = s.status.conditions.grounds sequenceConditions.happy := by
  simp only [ofSequence, Conditions.grounds]
  cases s.status.conditions.get? sequenceConditions.happy <;> rfl

theorem blames_ofSequence :
    (ofSequence s previous channelCount subscriptionCount).Blames s.status.conditions ↔
      ∃ a : Aspect, s.status.conditions.holds a.type = false ∧ s.status.conditions.get? a.type ≠ none ∧
        s.status.conditions.grounds a.type = s.status.conditions.grounds sequenceConditions.happy := by
  have hgrounds : ∀ type, (s.status.conditions.get? type).map Condition.grounds =
      some (s.status.conditions.grounds sequenceConditions.happy) ↔ s.status.conditions.get? type ≠ none ∧
        s.status.conditions.grounds type = s.status.conditions.grounds sequenceConditions.happy := by
    intro type
    cases h : s.status.conditions.get? type with
    | none => simp
    | some c => simp [grounds_of_get? h]
  unfold Blames
  rw [grounds_ofSequence]
  constructor
  · rintro ⟨d, hdep, hlisted, hd⟩
    obtain ⟨a, rfl⟩ := Aspect.exists_of_mem hdep
    exact ⟨a, (mem_notReady_ofSequence hdep).1 hlisted, (hgrounds _).1 hd⟩
  · rintro ⟨a, hfalse, ha⟩
    exact ⟨a.type, a.type_mem, (mem_notReady_ofSequence a.type_mem).2 hfalse, (hgrounds _).2 ha⟩

theorem notReady_ofSequence_of_only {a : Aspect}
    (h : ∀ b : Aspect, s.status.conditions.holds b.type = true ↔ b ≠ a) :
    (ofSequence s previous channelCount subscriptionCount).notReady = [(a.type : Text)] := by
  have hfilter : (Aspect.all.map Aspect.type).filter (fun d => !s.status.conditions.holds d) =
      (Aspect.all.filter (· = a)).map Aspect.type := by
    rw [List.filter_map]
    refine congrArg _ (List.filter_congr fun b _ => ?_)
    rw [Function.comp_apply, Bool.eq_iff_iff, Bool.not_eq_true', ← Bool.not_eq_true, h b, not_ne_iff,
      decide_eq_true_iff]
  rw [ofSequence, dependents_sequenceConditions, hfilter]
  cases a <;> rfl

end Report

namespace SequenceStatus

open Finding

variable {now : DateTime}

/-! ## Under a failed identity -/

/-- A failed identity gives its grounds to the happy condition. -/
structure Accounted (cs : Conditions) : Prop where
  regular : Regular cs
  grounds : cs.statusOf? Aspect.identity.type = some .no →
    cs.grounds sequenceConditions.happy = cs.grounds Aspect.identity.type

theorem accounted_nil : Accounted [] := ⟨regular_nil, fun h => by simp [statusOf?, get?] at h⟩

/-- Seeds have no grounds, like what is missing. -/
theorem grounds_seedMissing (now : DateTime) (cs : Conditions) (type : String) :
    (sequenceConditions.seedMissing now cs).conditions.grounds type = cs.grounds type := by
  obtain ⟨hwritten, hkeep, hhappy, hnew⟩ := seedMissing_spec wellNamed_sequenceConditions now cs
  by_cases hpresent : cs.get? type = none
  · by_cases ht : type ∈ sequenceConditions.types
    · have hempty : cs.grounds type = (Text.ofString "", Text.ofString "") := by
        rw [Conditions.grounds, hpresent]
        rfl
      rw [hempty]
      rcases List.mem_cons.1 ht with rfl | hdep
      · rw [grounds_of_get? (hhappy hpresent), Condition.grounds_recorded]
        rfl
      · obtain ⟨a, rfl⟩ := Aspect.exists_of_mem hdep
        refine (grounds_of_get? (hnew a.name hdep hpresent)).trans ?_
        rw [Condition.grounds_recorded]
        rfl
    · exact grounds_eq_of_get?_eq (hwritten.get?_eq ht)
  · exact grounds_eq_of_get?_eq (hkeep type hpresent)

section
variable {cs : Conditions} (h : Accounted cs)
include h

/-- As long as the identity fails, what leaves both conditions alone leaves the grounds alone. -/
theorem Accounted.congr {ds : Conditions} (hreg : Regular ds)
    (hkeep : ds.statusOf? Aspect.identity.type = some .no →
      ds.get? sequenceConditions.happy = cs.get? sequenceConditions.happy ∧
      ds.get? Aspect.identity.type = cs.get? Aspect.identity.type) : Accounted ds := by
  refine ⟨hreg, fun hno => ?_⟩
  obtain ⟨hhappy, hidentity⟩ := hkeep hno
  rw [grounds_eq_of_get?_eq hhappy, grounds_eq_of_get?_eq hidentity]
  exact h.grounds ((statusOf?_eq_of_get?_eq hidentity).symm.trans hno)

theorem Accounted.seedMissing (now : DateTime) : Accounted (sequenceConditions.seedMissing now cs).conditions := by
  obtain ⟨_, hkeep, _⟩ := seedMissing_spec wellNamed_sequenceConditions now cs
  refine h.congr (regular_seedMissing now h.regular) fun hno => ?_
  have hfailed : cs.statusOf? Aspect.identity.type = some .no := by
    have hseed := (statusOf?_aspect_seedMissing now h.regular .identity).symm.trans hno
    cases hold : cs.statusOf? Aspect.identity.type <;> simp_all
  have hhappy := h.regular.backed.false_of _ Aspect.identity.type_mem hfailed
  exact ⟨hkeep _ fun e => by simp [statusOf?_eq_none.2 e] at hhappy,
    hkeep _ fun e => by simp [statusOf?_eq_none.2 e] at hfailed⟩

theorem Accounted.markTrueWith (now : DateTime) (a : Aspect) (reason message : Text) :
    Accounted (sequenceConditions.markTrueWith now a.type reason message cs).conditions := by
  have hd := h.regular.backed.distinct
  refine h.congr (regular_markTrueWith now a reason message h.regular) fun hno => ?_
  have hne : Aspect.identity ≠ a := by
    rintro rfl
    simp [statusOf?_aspect_markTrueWith now reason message hd] at hno
  have hall : ¬ sequenceConditions.allHold (sequenceConditions.markTrueWith now a.type reason message cs).conditions :=
    not_allHold Aspect.identity.type_mem (by simp [hno])
  exact ⟨(get?_happy_markTrueWith hd a.name_ne_happy wellNamed_sequenceConditions).trans (if_neg hall),
    (written_markTrueWith a.type).get?_eq (by simp [hne, Aspect.type_ne_happy])⟩

theorem Accounted.markUnknown (now : DateTime) (a : Aspect) (reason message : Text) :
    Accounted (sequenceConditions.markUnknown now a.type reason message cs).conditions := by
  have hd := h.regular.backed.distinct
  refine h.congr (regular_markUnknown now a reason message h.regular) fun hno => ?_
  have hne : Aspect.identity ≠ a := by
    rintro rfl
    simp [statusOf?_aspect_markUnknown now reason message hd] at hno
  have hfails := anyFails_iff.2 ⟨_, Aspect.identity.type_mem, hno⟩
  rw [statusOf?_aspect_markUnknown now reason message hd, if_neg hne] at hno
  have hfailed := fails_iff.2 (h.regular.backed.false_of _ Aspect.identity.type_mem hno)
  exact ⟨(get?_happy_markUnknown hd a.name_ne_happy wellNamed_sequenceConditions).trans
      ((if_pos hfails).trans (if_pos hfailed)),
    (written_markUnknown a.type).get?_eq (by simp [hne, Aspect.type_ne_happy])⟩

theorem Accounted.identityFailed (now : DateTime) (reason message : Text) :
    Accounted (sequenceConditions.markFalse now Aspect.identity.type reason message cs).conditions := by
  have hd := h.regular.backed.distinct
  have hne := Aspect.identity.name_ne_happy
  have hhappy : (sequenceConditions.markFalse now Aspect.identity.type reason message cs).conditions.get?
      sequenceConditions.happy = some ((sequenceConditions.happyEntry wellNamed_sequenceConditions .no reason
        message).recorded now (cs.get? sequenceConditions.happy)) :=
    (get?_happy_markFalse hd hne wellNamed_sequenceConditions).trans (if_pos Aspect.identity.name_mem)
  refine ⟨regular_markFalse now reason message h.regular, fun _ => ?_⟩
  refine (grounds_of_get? hhappy).trans (Eq.trans ?_ (grounds_of_get? (get?_markFalse hd hne)).symm)
  rw [Condition.grounds_recorded, Condition.grounds_recorded]
  rfl

end

theorem kept_accounted : Kept Accounted :=
  ⟨fun now _ h => h.seedMissing now, fun now a r m _ h => h.markTrueWith now a r m,
    fun now a r m _ h => h.markUnknown now a r m, fun now r m _ h => h.identityFailed now r m⟩

/-! ## The cause of a pass that is not ready -/

/-- The report of a pass over a sequence that has this status. -/
def report (host : Work) (now : DateTime) (channels : Option (List Channel))
    (subscriptions : Option (List Subscription)) (s : SequenceStatus) : Report :=
  ((host.onStatus fun _ => s).reconcile now (channels.getD []) (subscriptions.getD [])).1

/-- An aspect that is on record, is not true, and has the grounds that the happy condition shows. -/
def Cause (cs : Conditions) (a : Aspect) : Prop :=
  cs.holds a.type = false ∧ cs.get? a.type ≠ none ∧ cs.grounds a.type = cs.grounds sequenceConditions.happy

theorem cause_of_status {cs : Conditions} {a : Aspect} {st : Status} (hst : cs.statusOf? a.type = some st)
    (hne : st ≠ .yes) (hgrounds : cs.grounds a.type = cs.grounds sequenceConditions.happy) : Cause cs a := by
  refine ⟨?_, fun h => ?_, hgrounds⟩
  · rw [← Bool.not_eq_true, holds_iff, hst]
    simpa using hne
  · simp [statusOf?_eq_none.2 h] at hst

section
variable (steps : List Step) (host : Work) (now : DateTime) (channels : Option (List Channel))
  (subscriptions : Option (List Subscription))

theorem ready_report (s : SequenceStatus) : (s.report host now channels subscriptions).ready =
    (s.pass host now channels subscriptions).conditions.holds sequenceConditions.happy :=
  Report.ready_ofSequence

theorem blames_report (s : SequenceStatus) :
    (s.report host now channels subscriptions).Blames (s.pass host now channels subscriptions).conditions ↔
      ∃ a, Cause (s.pass host now channels subscriptions).conditions a :=
  Report.blames_ofSequence

theorem cause_of_failed (hno : (reached steps).conditions.statusOf? Aspect.identity.type = some .no) :
    Cause ((reached steps).pass host now channels subscriptions).conditions .identity := by
  have hacc : Accounted ((reached steps).pass host now channels subscriptions).conditions :=
    kept_accounted.pass host channels subscriptions (kept_accounted.run steps accounted_nil)
  have hidentity := statusOf?_identity_pass host now channels subscriptions (reached steps)
  rw [hno] at hidentity
  exact cause_of_status hidentity (by simp) (hacc.grounds hidentity).symm

theorem cause_of_trouble (hno : (reached steps).conditions.statusOf? Aspect.identity.type ≠ some .no)
    (htroubles : troubles (ofPass (channels.getD []) (subscriptions.getD [])) ≠ []) :
    ∃ a, Cause ((reached steps).pass host now channels subscriptions).conditions a := by
  have hreg := regular_seeded now steps
  have hno' : ((reached steps).seeded now).statusOf? Aspect.identity.type ≠ some .no := by
    rw [statusOf?_seeded]
    cases h : (reached steps).conditions.statusOf? Aspect.identity.type <;> simp_all
  have hnd := nodup_ofPass (channels.getD []) (subscriptions.getD [])
  -- the last trouble wrote the happy condition, and its aspect, marked once, still has the same grounds
  obtain ⟨_, hwritten⟩ := exists_get?_happy_marks now hreg _ (aspect_ne_identity _ _) hno' hnd htroubles
  obtain ⟨t, ht, _, hlast⟩ := exists_unsettleAll now htroubles _
  obtain ⟨f, hf, hft⟩ := List.mem_filterMap.1 ht
  have hself := get?_marks_of_mem now hreg.backed.distinct _ hnd f hf
  refine ⟨f.aspect, ?_⟩
  rw [marks_of_pass]
  have htold := (told_marks now hreg.backed.distinct _ hnd f hf).statusOf?
  refine cause_of_status htold (by simp [status, hft]) ?_
  rw [grounds_of_get? hself, grounds_of_get? (hwritten.trans hlast), Condition.grounds_recorded,
    Condition.grounds_recorded, entry_of_some hft]
  rfl

/-- After a run the happy condition is true exactly if every aspect is. -/
theorem holds_happy_pass : ((reached steps).pass host now channels subscriptions).conditions.holds
    sequenceConditions.happy = true ↔
      ∀ a : Aspect, ((reached steps).pass host now channels subscriptions).conditions.holds a.type = true := by
  rw [holds_iff, (kept_regular.pass host channels subscriptions (regular_reached steps)).backed.true_iff, ← allHold_iff,
    allHold_sequenceConditions]

section
variable (htroubles : troubles (ofPass (channels.getD []) (subscriptions.getD [])) = [])
include htroubles

/-- Without trouble, only the identity may keep a pass from being ready. -/
theorem holds_pass_of_none (b : Aspect) :
    ((reached steps).pass host now channels subscriptions).conditions.holds b.type = true ↔
      (b = .identity → (reached steps).conditions.statusOf? Aspect.identity.type = some .yes) := by
  have hd := (regular_seeded now steps).backed.distinct
  rw [holds_iff, marks_of_pass]
  by_cases hb : b = .identity
  · rw [hb, statusOf?_marks_of_notMem now _ (aspect_ne_identity _ _), statusOf?_seeded]
    cases (reached steps).conditions.statusOf? Aspect.identity.type <;> simp
  · simp [hb, statusOf?_marks_of_no_trouble now hd (troubles_eq_nil.1 htroubles) hb]

variable (hno : (reached steps).conditions.statusOf? Aspect.identity.type ≠ some .no)
  (hyes : (reached steps).conditions.statusOf? Aspect.identity.type ≠ some .yes)
include hno hyes

/-- Without trouble and with an identity that is neither true nor false, a pass leaves the grounds of both as they
were. -/
theorem grounds_pass_of_none :
    let after := ((reached steps).pass host now channels subscriptions).conditions
    after.grounds sequenceConditions.happy = (reached steps).conditions.grounds sequenceConditions.happy ∧
    after.grounds Aspect.identity.type = (reached steps).conditions.grounds Aspect.identity.type := by
  intro after
  have hid := aspect_ne_identity (channels.getD []) (subscriptions.getD [])
  have hunknown : ((reached steps).seeded now).statusOf? Aspect.identity.type = some .unknown := by
    rw [statusOf?_seeded]
    cases h : (reached steps).conditions.statusOf? Aspect.identity.type with
    | none => rfl
    | some st => cases st <;> simp_all
  have hafter : after = marks now _ ((reached steps).seeded now) := marks_of_pass host channels subscriptions _
  have hhappy := get?_happy_marks now (regular_seeded now steps) _ hid (by simp [hunknown]) .identity
    (by simp [hunknown]) fun f hf e => absurd e (hid f hf)
  rw [htroubles, ← hafter] at hhappy
  have hidentity : after.get? Aspect.identity.type = ((reached steps).seeded now).get? Aspect.identity.type := by
    rw [hafter]
    exact get?_marks_of_notMem now _ hid
  rw [grounds_eq_of_get?_eq hhappy, grounds_eq_of_get?_eq hidentity]
  exact ⟨grounds_seedMissing now _ _, grounds_seedMissing now _ _⟩

/-- Such a pass lists the identity alone, and blames it only if it was the one to blame before. -/
theorem report_pass_of_none :
    let before := (reached steps).conditions
    let after := ((reached steps).pass host now channels subscriptions).conditions
    let report := (reached steps).report host now channels subscriptions
    report.ready = false ∧ report.notReady = [(Aspect.identity.type : Text)] ∧
    (report.reason, report.message) = before.grounds sequenceConditions.happy ∧
    (report.Blames after ↔ before.grounds Aspect.identity.type = before.grounds sequenceConditions.happy) := by
  intro before after report
  have honly : ∀ b : Aspect, after.holds b.type = true ↔ b ≠ .identity := fun b =>
    (holds_pass_of_none steps host now channels subscriptions htroubles b).trans
      ⟨fun h hb => hyes (h hb), fun h hb => absurd hb h⟩
  have hidentity : after.holds Aspect.identity.type = false :=
    Bool.not_eq_true _ ▸ fun h => (honly .identity).1 h rfl
  obtain ⟨hhappy, hsame⟩ := grounds_pass_of_none steps host now channels subscriptions htroubles hno hyes
  refine ⟨?_, Report.notReady_ofSequence_of_only honly, Report.grounds_ofSequence.trans hhappy, ?_⟩
  · rw [ready_report, ← Bool.not_eq_true, holds_happy_pass]
    exact fun h => (honly .identity).1 (h .identity) rfl
  rw [blames_report, ← hhappy, ← hsame]
  refine ⟨?_, fun h => ⟨.identity, hidentity, fun hnone => ?_, h⟩⟩
  · rintro ⟨a, hfalse, _, hgrounds⟩
    obtain rfl : a = .identity := by
      by_contra hne
      rw [(honly a).2 hne] at hfalse
      exact absurd hfalse (by decide)
    exact hgrounds
  · have habsent := statusOf?_identity_pass host now channels subscriptions (reached steps)
    rw [statusOf?_eq_none.2 hnone] at habsent
    simp at habsent

end

end

/-- **What a report blames.** After any run, a pass whose report is not ready reports the reason and the message of some
condition that it lists as not ready, unless its grounds are stale: it found no trouble, the identity was neither true
nor false before it, and the happy condition already had other grounds than the identity. Stale grounds are reported as
they were before the pass, next to the identity as the only one listed, and blame nothing that is listed. -/
theorem grounds_of_report (steps : List Step) (host : Work) (now : DateTime) (channels : Option (List Channel))
    (subscriptions : Option (List Subscription)) :
    let before := (reached steps).conditions
    let after := ((reached steps).pass host now channels subscriptions).conditions
    let report := (reached steps).report host now channels subscriptions
    let stale := troubles (ofPass (channels.getD []) (subscriptions.getD [])) = [] ∧
      before.statusOf? Aspect.identity.type ≠ some .no ∧ before.statusOf? Aspect.identity.type ≠ some .yes ∧
      before.grounds Aspect.identity.type ≠ before.grounds sequenceConditions.happy
    (report.ready = false → report.Blames after ∨ stale) ∧
    (stale → report.ready = false ∧ report.notReady = [(Aspect.identity.type : Text)] ∧
      (report.reason, report.message) = before.grounds sequenceConditions.happy ∧ ¬ report.Blames after) := by
  intro before after report stale
  constructor
  · intro hnot
    by_cases hno : before.statusOf? Aspect.identity.type = some .no
    · exact .inl ((blames_report ..).2 ⟨_, cause_of_failed steps host now channels subscriptions hno⟩)
    by_cases htroubles : troubles (ofPass (channels.getD []) (subscriptions.getD [])) = []
    · have hyes : before.statusOf? Aspect.identity.type ≠ some .yes := fun hyes => by
        have hready : report.ready = true := (ready_report ..).trans ((holds_happy_pass ..).2 fun a =>
          (holds_pass_of_none steps host now channels subscriptions htroubles a).2 fun _ => hyes)
        simp [hready] at hnot
      obtain ⟨_, _, _, hblames⟩ := report_pass_of_none steps host now channels subscriptions htroubles hno hyes
      by_cases hsame : before.grounds Aspect.identity.type = before.grounds sequenceConditions.happy
      · exact .inl (hblames.2 hsame)
      · exact .inr ⟨htroubles, hno, hyes, hsame⟩
    · exact .inl ((blames_report ..).2 (cause_of_trouble steps host now channels subscriptions hno htroubles))
  · rintro ⟨htroubles, hno, hyes, hdiffer⟩
    obtain ⟨hready, hlisted, hgrounds, hblames⟩ :=
      report_pass_of_none steps host now channels subscriptions htroubles hno hyes
    exact ⟨hready, hlisted, hgrounds, fun h => hdiffer (hblames.1 h)⟩

/-- A fetch of channels that failed is still blamed when the channels are back and true; what is listed, the identity,
has no reason at all. -/
theorem stale_grounds_after_fetch_failure :
    let host : Work := { sequence := {} }
    let s := reached [(default, .fetchFailure host "channels" "timeout")]
    let after := (s.pass host default (some [readyChannel]) (some [readySubscription])).conditions
    let report := s.report host default (some [readyChannel]) (some [readySubscription])
    report.ready = false ∧ report.reason = "ChannelListFailed" ∧ after.holds Aspect.channels.type = true ∧
      report.notReady = [(Aspect.identity.type : Text)] ∧ ¬ report.Blames after := by
  decide

end SequenceStatus

end Readiness
