import Readiness.Proofs.Sequence.Findings

/-!
# The outcome of a pass

After a pass the aspects it looks at tell what was found, the others are as before, and the happy condition tells the
verdict of all of them: a pass leaves nothing stale, whatever the run before it was.

Nothing computes the happy condition afresh, so the argument goes by cases. If there was trouble, the mark of the first
one settled the happy condition, and the marks after it kept it so. If there was none, every aspect but the identity is
true, and with the identity the invariant of runs decides: what is left of a failure that was taken back is raised by
the last mark.
-/
namespace Readiness

open Calendar ConditionSet Conditions Declaration SequenceStatus

namespace Finding

variable (now : DateTime) {cs : Conditions}

theorem written_mark (f : Finding) : Written [f.aspect.type, sequenceConditions.happy] cs (f.mark now cs) := by
  unfold mark
  split
  · exact written_markTrueWith _
  · exact written_markUnknown _

/-- The condition that a finding is recorded as. -/
def entry (f : Finding) : Condition :=
  sequenceConditions.entry f.aspect.name f.status (f.trouble.elim "" (·.1)) (f.trouble.elim "" (·.2))

theorem entry_of_none {f : Finding} (h : f.trouble = none) :
    f.entry = sequenceConditions.entry f.aspect.name .yes "" "" := by
  rw [entry, status, h]
  rfl

theorem entry_of_some {f : Finding} {t : Text × Text} (h : f.trouble = some t) :
    f.entry = sequenceConditions.entry f.aspect.name .unknown t.1 t.2 := by
  rw [entry, status, h]
  rfl

/-- The finding is on record. -/
def Told (f : Finding) (cs : Conditions) : Prop :=
  ∃ c, cs.get? f.aspect.type = some c ∧ f.entry.sameContent c = true

theorem Told.statusOf? {f : Finding} (h : f.Told cs) : cs.statusOf? f.aspect.type = some f.status := by
  obtain ⟨c, hget, hsame⟩ := h
  rw [Conditions.statusOf?, hget]
  exact congrArg some (Condition.sameContent_iff.1 hsame).2.1.symm

theorem Told.of_get?_eq {f : Finding} {ds : Conditions} (h : f.Told cs)
    (heq : ds.get? f.aspect.type = cs.get? f.aspect.type) : f.Told ds := by
  obtain ⟨c, hget, hsame⟩ := h
  exact ⟨c, heq.trans hget, hsame⟩

theorem get?_mark_self (hd : cs.Distinct) (f : Finding) :
    (f.mark now cs).get? f.aspect.type = some (f.entry.recorded now (cs.get? f.aspect.type)) := by
  have hne := f.aspect.name_ne_happy
  cases hf : f.trouble with
  | none =>
    rw [entry_of_none hf, mark_of_none hf]
    exact get?_markTrueWith hd hne
  | some t =>
    rw [entry_of_some hf, mark_of_some hf]
    exact get?_markUnknown hd hne

theorem told_mark (hd : cs.Distinct) (f : Finding) : f.Told (f.mark now cs) :=
  ⟨_, get?_mark_self now hd f, Condition.recorded_sameContent _ _ _⟩

theorem regular_mark (f : Finding) (h : Regular cs) : Regular (f.mark now cs) := by
  unfold mark
  split
  · exact kept_regular.markTrue now _ _ _ cs h
  · exact kept_regular.markUnknown now _ _ _ cs h

theorem settled_mark_of_trouble (hd : cs.Distinct) (f : Finding) (hf : f.trouble ≠ none) :
    sequenceConditions.Settled (f.mark now cs) := by
  obtain ⟨t, ht⟩ := Option.ne_none_iff_exists'.1 hf
  rw [mark_of_some ht]
  exact settled_markUnknown wellNamed_sequenceConditions hd f.aspect.name_mem

theorem settled_mark (hd : cs.Distinct) (f : Finding) (hs : sequenceConditions.Settled cs)
    (hno : cs.statusOf? f.aspect.type ≠ some .no) : sequenceConditions.Settled (f.mark now cs) := by
  by_cases hf : f.trouble = none
  · rw [mark_of_none hf]
    exact settled_markTrueWith wellNamed_sequenceConditions hd f.aspect.name_mem hs hno
  · exact settled_mark_of_trouble now hd f hf

/-! ## Several findings -/

theorem regular_marks (fs : List Finding) (h : Regular cs) : Regular (marks now fs cs) := by
  induction fs generalizing cs with
  | nil => exact h
  | cons f fs ih => exact ih (regular_mark now f h)

theorem written_marks (fs : List Finding) :
    Written (fs.map (·.aspect.type) ++ [sequenceConditions.happy]) cs (marks now fs cs) := by
  induction fs generalizing cs with
  | nil => exact .refl
  | cons f fs ih => exact ((written_mark now f).mono (by simp)).trans (ih.mono fun _ => List.mem_cons_of_mem _)

theorem get?_marks_ne_none (fs : List Finding) {type : String} (h : cs.get? type ≠ none) :
    (marks now fs cs).get? type ≠ none :=
  (written_marks now fs).get?_ne_none h

theorem get?_marks_of_notMem (fs : List Finding) {b : Aspect} (hb : ∀ f ∈ fs, f.aspect ≠ b) :
    (marks now fs cs).get? b.type = cs.get? b.type :=
  (written_marks now fs).get?_eq (by simpa [b.type_ne_happy] using hb)

theorem statusOf?_marks_of_notMem (fs : List Finding) {b : Aspect} (hb : ∀ f ∈ fs, f.aspect ≠ b) :
    (marks now fs cs).statusOf? b.type = cs.statusOf? b.type :=
  statusOf?_eq_of_get?_eq (get?_marks_of_notMem now fs hb)

/-- Where no aspect is marked twice, every finding is recorded where its aspect was before. -/
theorem get?_marks_of_mem (hd : cs.Distinct) (fs : List Finding) (hnd : (fs.map aspect).Nodup) :
    ∀ f ∈ fs, (marks now fs cs).get? f.aspect.type = some (f.entry.recorded now (cs.get? f.aspect.type)) := by
  induction fs generalizing cs with
  | nil => simp
  | cons g fs ih =>
    intro f hf
    obtain ⟨hg, hfs⟩ := List.nodup_cons.1 hnd
    rcases List.mem_cons.1 hf with rfl | hf
    · have hnot : ∀ h ∈ fs, h.aspect ≠ f.aspect := fun h hh e => hg (e ▸ List.mem_map_of_mem hh)
      exact (get?_marks_of_notMem now fs hnot).trans (get?_mark_self now hd f)
    · have hne : f.aspect ≠ g.aspect := fun e => hg (e ▸ List.mem_map_of_mem hf)
      have hbefore : (g.mark now cs).get? f.aspect.type = cs.get? f.aspect.type :=
        (written_mark now g).get?_eq (by simp [hne, f.aspect.type_ne_happy])
      rw [← hbefore]
      exact ih ((written_mark now g).distinct hd) hfs f hf

theorem told_marks (hd : cs.Distinct) (fs : List Finding) (hnd : (fs.map aspect).Nodup) :
    ∀ f ∈ fs, f.Told (marks now fs cs) :=
  fun f hf => ⟨_, get?_marks_of_mem now hd fs hnd f hf, Condition.recorded_sameContent _ _ _⟩

/-- Among findings about aspects that do not fail, a single trouble settles. -/
theorem settled_marks (hreg : Regular cs) (fs : List Finding) (hid : ∀ f ∈ fs, f.aspect ≠ .identity)
    (hs : sequenceConditions.Settled cs ∨ ∃ f ∈ fs, f.trouble ≠ none) :
    sequenceConditions.Settled (marks now fs cs) := by
  induction fs generalizing cs with
  | nil =>
    rcases hs with hs | ⟨f, hf, _⟩
    · exact hs
    · simp at hf
  | cons f fs ih =>
    have hd := hreg.backed.distinct
    refine ih (regular_mark now f hreg) (fun g hg => hid g (List.mem_cons_of_mem _ hg)) ?_
    rcases hs with hs | ⟨g, hg, htrouble⟩
    · exact Or.inl (settled_mark now hd f hs fun hno => hid f (by simp) (hreg.only _ hno))
    · rcases List.mem_cons.1 hg with rfl | hg
      · exact Or.inl (settled_mark_of_trouble now hd g htrouble)
      · exact Or.inr ⟨g, hg, htrouble⟩

/-! ## The findings of a pass -/

theorem status_ofChildren (k : ChildKind) (children : List (Option Condition)) :
    (ofChildren k children).status = if everyReady children then .yes else .unknown := by
  unfold ofChildren status
  cases everyReady children <;> rfl

theorem status_ofAddress (a : Option Address) :
    (ofAddress a).status = if (a.bind Address.target?).isSome then .yes else .unknown := by
  unfold ofAddress status
  cases a.bind Address.target? <;> rfl

theorem channels_mem (cs : List Channel) (ss : List Subscription) :
    ofChildren .channel (cs.map Channel.ready?) ∈ ofPass cs ss := by
  cases cs <;> simp [ofPass, ofChannels]

theorem subscriptions_mem (cs : List Channel) (ss : List Subscription) :
    ofChildren .subscription (ss.map Subscription.ready?) ∈ ofPass cs ss := by
  simp [ofPass]

theorem address_mem (c : Channel) (cs : List Channel) (ss : List Subscription) :
    ofAddress c.status.address ∈ ofPass (c :: cs) ss := by
  simp [ofPass, ofChannels]

theorem nodup_ofPass (cs : List Channel) (ss : List Subscription) : ((ofPass cs ss).map aspect).Nodup := by
  cases cs <;> simp [ofPass, ofChannels, ofChildren, ofAddress, ChildKind.aspect]

theorem aspect_ne_identity (cs : List Channel) (ss : List Subscription) :
    ∀ f ∈ ofPass cs ss, f.aspect ≠ .identity := by
  cases cs <;> simp [ofPass, ofChannels, ofChildren, ofAddress, ChildKind.aspect]

/-- With channels, everything but the identity is looked at. -/
theorem exists_finding {cs : List Channel} (hcs : cs ≠ []) (ss : List Subscription) {b : Aspect}
    (hb : b ≠ .identity) : ∃ f ∈ ofPass cs ss, f.aspect = b := by
  cases cs with
  | nil => exact absurd rfl hcs
  | cons c cs => cases b <;> simp_all [ofPass, ofChannels, ofChildren, ofAddress, ChildKind.aspect]

/-- A pass without channels finds trouble. -/
theorem trouble_of_no_channels (ss : List Subscription) : ∃ f ∈ ofPass [] ss, f.trouble ≠ none :=
  ⟨ofChildren .channel [], by simp [ofPass, ofChannels], by simp [ofChildren, everyReady]⟩

/-- A pass that finds no trouble leaves everything but the identity true. -/
theorem statusOf?_marks_of_no_trouble (hd : cs.Distinct) {channels : List Channel} {subscriptions : List Subscription}
    (hnone : ∀ f ∈ ofPass channels subscriptions, f.trouble = none) {b : Aspect} (hb : b ≠ .identity) :
    (marks now (ofPass channels subscriptions) cs).statusOf? b.type = some .yes := by
  have hchannels : channels ≠ [] := by
    rintro rfl
    obtain ⟨f, hf, htrouble⟩ := trouble_of_no_channels subscriptions
    exact htrouble (hnone f hf)
  obtain ⟨f, hf, rfl⟩ := exists_finding hchannels subscriptions hb
  rw [(told_marks now hd _ (nodup_ofPass channels subscriptions) f hf).statusOf?, status, hnone f hf]
  rfl

end Finding

namespace SequenceStatus

open Finding

variable {now : DateTime}

/-- Where the identity is not true, only the absence of the happy condition keeps a regular list from being settled. -/
theorem settled_of_regular {cs : Conditions} (h : Regular cs) (hpresent : cs.statusOf? sequenceConditions.happy ≠ none)
    (hid : cs.statusOf? Aspect.identity.type ≠ some .yes) : sequenceConditions.Settled cs := by
  have hall : ¬ sequenceConditions.allHold cs = true := not_allHold Aspect.identity.type_mem hid
  by_cases hfails : sequenceConditions.anyFails cs = true
  · obtain ⟨d, hd, hno⟩ := anyFails_iff.1 hfails
    rw [Settled, h.backed.false_of d hd hno, verdict, if_pos hfails]
  · rw [Settled, verdict, if_neg hfails, if_neg hall]
    obtain ⟨st, hst⟩ := Option.ne_none_iff_exists'.1 hpresent
    rw [hst]
    cases st with
    | unknown => rfl
    | yes => exact absurd (allHold_iff.2 (h.backed.true_iff.1 hst)) hall
    | no =>
      rcases h.decided hst with hno | hyes
      · exact absurd (anyFails_iff.2 ⟨_, Aspect.identity.type_mem, hno⟩) hfails
      · exact absurd hyes hid

/-- Where all but the identity is true, the identity decides. -/
theorem settled_of_others {cs : Conditions} (h : Regular cs) (hpresent : cs.statusOf? sequenceConditions.happy ≠ none)
    (hyes : ∀ b : Aspect, b ≠ .identity → cs.statusOf? b.type = some .yes) : sequenceConditions.Settled cs := by
  by_cases hid : cs.statusOf? Aspect.identity.type = some .yes
  · have hall : ∀ d ∈ sequenceConditions.dependents, cs.statusOf? d = some .yes := by
      intro d hdep
      obtain ⟨b, rfl⟩ := Aspect.exists_of_mem hdep
      by_cases hb : b = .identity
      · rw [hb, hid]
      · exact hyes b hb
    rw [Settled, verdict_eq_yes (allHold_iff.2 hall)]
    exact h.backed.true_iff.2 hall
  · exact settled_of_regular h hpresent hid

/-- The conditions that the marks of a pass start from. -/
def seeded (now : DateTime) (s : SequenceStatus) : Conditions :=
  (sequenceConditions.seedMissing now s.conditions).conditions

theorem marks_of_pass (host : Work) (channels : Option (List Channel)) (subscriptions : Option (List Subscription))
    (s : SequenceStatus) : (s.pass host now channels subscriptions).conditions =
      marks now (ofPass (channels.getD []) (subscriptions.getD [])) (s.seeded now) :=
  conditions_pass host channels subscriptions

theorem regular_seeded (now : DateTime) (steps : List Step) : Regular ((reached steps).seeded now) :=
  kept_regular.seed now _ (regular_reached steps)

theorem statusOf?_seeded (now : DateTime) (steps : List Step) (a : Aspect) :
    ((reached steps).seeded now).statusOf? a.type =
      some (((reached steps).conditions.statusOf? a.type).getD .unknown) :=
  statusOf?_aspect_seedMissing now (regular_reached steps) a

theorem get?_seeded_ne_none (now : DateTime) (steps : List Step) :
    ∀ t ∈ sequenceConditions.types, ((reached steps).seeded now).get? t ≠ none :=
  get?_seedMissing_ne_none wellNamed_sequenceConditions now (reached steps).conditions

theorem settled_pass (steps : List Step) (host : Work) (channels : Option (List Channel))
    (subscriptions : Option (List Subscription)) :
    sequenceConditions.Settled ((reached steps).pass host now channels subscriptions).conditions := by
  have hreg := regular_seeded now steps
  rw [marks_of_pass]
  generalize channels.getD [] = cs
  generalize subscriptions.getD [] = ss
  by_cases htrouble : ∃ f ∈ ofPass cs ss, f.trouble ≠ none
  · exact settled_marks now hreg _ (aspect_ne_identity cs ss) (Or.inr htrouble)
  · have hnone : ∀ f ∈ ofPass cs ss, f.trouble = none :=
      fun f hf => Classical.byContradiction fun h => htrouble ⟨f, hf, h⟩
    refine settled_of_others (regular_marks now _ hreg) ?_ fun b hb =>
      statusOf?_marks_of_no_trouble now hreg.backed.distinct hnone hb
    rw [Ne, statusOf?_eq_none]
    exact get?_marks_ne_none now _ (get?_seeded_ne_none now steps _ List.mem_cons_self)

/-- **The outcome of a pass.** After any run, a pass leaves all five tracked conditions. The children's are true if
there are children and each is ready, and otherwise unknown; the address goes by the first channel, and without
channels stays as it was; the identity stays as it was; and the happy condition is false, true or unknown as the four
together are. What was missing counts as unknown. -/
theorem outcome_of_pass (steps : List Step) (host : Work) (channels : Option (List Channel))
    (subscriptions : Option (List Subscription)) :
    let before := (reached steps).conditions
    let after := ((reached steps).pass host now channels subscriptions).conditions
    after.statusOf? Aspect.channels.type =
      some (if everyReady ((channels.getD []).map Channel.ready?) then .yes else .unknown) ∧
    after.statusOf? Aspect.subscriptions.type =
      some (if everyReady ((subscriptions.getD []).map Subscription.ready?) then .yes else .unknown) ∧
    after.statusOf? Aspect.address.type = some (match channels.getD [] with
      | [] => (before.statusOf? Aspect.address.type).getD .unknown
      | c :: _ => if (c.status.address.bind Address.target?).isSome then .yes else .unknown) ∧
    after.statusOf? Aspect.identity.type = some ((before.statusOf? Aspect.identity.type).getD .unknown) ∧
    after.statusOf? sequenceConditions.happy = some (sequenceConditions.verdict after) := by
  intro before after
  have hd := (regular_seeded now steps).backed.distinct
  have hsettled : sequenceConditions.Settled after := settled_pass steps host channels subscriptions
  have hafter : after = marks now (ofPass (channels.getD []) (subscriptions.getD [])) ((reached steps).seeded now) :=
    conditions_pass host channels subscriptions
  have hfound := fun {f} hf => (told_marks now hd _
    (nodup_ofPass (channels.getD []) (subscriptions.getD [])) f hf).statusOf?
  refine ⟨?_, ?_, ?_, ?_, hsettled⟩
  · rw [hafter, ← status_ofChildren .channel]
    exact hfound (channels_mem _ _)
  · rw [hafter, ← status_ofChildren .subscription]
    exact hfound (subscriptions_mem _ _)
  · rw [hafter]
    cases hcs : channels.getD [] with
    | nil =>
      -- without channels nothing is found out about the address
      refine (statusOf?_marks_of_notMem now _ ?_).trans (statusOf?_seeded now steps .address)
      simp [ofPass, ofChannels, ofChildren, ChildKind.aspect]
    | cons c cs =>
      dsimp only
      rw [hcs] at hfound
      rw [← status_ofAddress]
      exact hfound (address_mem c cs _)
  · rw [hafter]
    exact (statusOf?_marks_of_notMem now _ (aspect_ne_identity _ _)).trans (statusOf?_seeded now steps .identity)

end SequenceStatus

end Readiness
