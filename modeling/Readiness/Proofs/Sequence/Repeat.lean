import Readiness.Proofs.Sequence.Troubles

/-!
# Two passes over the same children

A second pass over the same children finds on record what it is about to write, so that it writes nothing anew, entries
and their stand-ins included, with one exception: the happy condition. It is written once for every trouble, each time
with the reason of that trouble, and ends up with the last. One trouble is on record the second time. With two of
them, the first overwrites the last and is overwritten by it again, and what comes out differs in its time.
-/
namespace Readiness

open Calendar ConditionSet Conditions Declaration SequenceStatus

namespace Finding

variable (now : DateTime) {cs : Conditions}

/-! ## No trouble at all -/

/-- Without trouble, a happy condition that is raised stays as it is. -/
theorem get?_happy_marks_of_raised (hd : cs.Distinct) (fs : List Finding) (ht : troubles fs = []) {c : Condition}
    (hc : cs.get? sequenceConditions.happy = some c) (hraised : raised.sameContent c = true) :
    (marks now fs cs).get? sequenceConditions.happy = some c := by
  induction fs generalizing cs with
  | nil => exact hc
  | cons f fs ih =>
    cases hf : f.trouble with
    | none =>
      rw [troubles_cons_of_none hf] at ht
      refine ih ((written_mark now f).distinct hd) ht ?_
      rw [get?_happy_mark_of_none now hd hf, hc, Condition.recorded, if_pos hraised]
      split <;> rfl
    | some t => simp [troubles_cons_of_some hf] at ht

/-! ## One trouble after another -/

theorem unsettled_inj {t u : Text × Text} {c : Condition} (ht : (unsettled t).sameContent c = true)
    (hu : (unsettled u).sameContent c = true) : t = u := by
  obtain ⟨_, _, _, hreason, hmessage⟩ := Condition.sameContent_iff.1 ht
  obtain ⟨_, _, _, hreason', hmessage'⟩ := Condition.sameContent_iff.1 hu
  exact Prod.ext (hreason.trans hreason'.symm) (hmessage.trans hmessage'.symm)

/-- From the second trouble on, each one is news. -/
theorem unsettleAll_of_two {t u : Text × Text} {ts : List (Text × Text)} (hnd : (t :: u :: ts).Nodup) :
    ∃ last, ∀ now old, unsettleAll now (t :: u :: ts) old =
      some { unsettled last with transition := some now.truncated } := by
  induction ts generalizing t u with
  | nil =>
    refine ⟨u, fun now old => congrArg some ?_⟩
    have hne : t ≠ u := fun e => by simp [e] at hnd
    have hnews : ¬ (unsettled u).sameContent ((unsettled t).recorded now old) = true :=
      fun h => hne (unsettled_inj (Condition.recorded_sameContent _ _ _) h)
    rw [Condition.recorded, if_neg hnews]
  | cons v ts ih =>
    obtain ⟨last, hlast⟩ := ih (List.nodup_cons.1 hnd).2
    exact ⟨last, fun now old => hlast now _⟩

/-- Each aspect has a reason of its own. -/
theorem nodup_troubles (cs : List Channel) (ss : List Subscription) : (troubles (ofPass cs ss)).Nodup := by
  unfold troubles ofPass ofChannels ofChildren
  generalize everyReady (ss.map Subscription.ready?) = subscriptions
  cases cs with
  | nil => cases subscriptions <;> decide
  | cons c cs =>
    unfold ofAddress
    dsimp only
    generalize everyReady ((c :: cs).map Channel.ready?) = channels
    generalize (c.status.address.bind Address.target?).isSome = address
    cases subscriptions <;> cases channels <;> cases address <;> decide

/-! ## Marking again -/

theorem written_mark_of_told {f : Finding} (h : f.Told cs) : Written [sequenceConditions.happy] cs (f.mark now cs) := by
  obtain ⟨c, hget, hsame⟩ := h
  have hset : cs.set now f.entry = cs := set_eq_self (mem_of_get? hget) hsame
  cases hf : f.trouble with
  | none =>
    rw [entry_of_none hf] at hset
    have hw := (written_of_mark now "" "" cs f.aspect.name_ne_happy).1
    rwa [hset, ← mark_of_none hf] at hw
  | some t =>
    rw [entry_of_some hf] at hset
    have hw := (written_of_mark now t.1 t.2 cs f.aspect.name_ne_happy).2.2
    rwa [hset, ← mark_of_some hf] at hw

/-- What is on record already is not written again. -/
theorem written_marks_of_told (fs : List Finding) (h : ∀ f ∈ fs, f.Told cs) :
    Written [sequenceConditions.happy] cs (marks now fs cs) := by
  induction fs generalizing cs with
  | nil => exact .refl
  | cons f fs ih =>
    have hw := written_mark_of_told now (h f (by simp))
    refine hw.trans (ih fun g hg => (h g (List.mem_cons_of_mem _ hg)).of_get?_eq ?_)
    exact hw.get?_eq (by simp [g.aspect.type_ne_happy])

theorem not_allHold_of_trouble (fs : List Finding) (h : ∀ f ∈ fs, f.Told cs) (ht : troubles fs ≠ []) :
    ¬ sequenceConditions.allHold cs = true := by
  obtain ⟨t, htmem⟩ := List.exists_mem_of_ne_nil _ ht
  obtain ⟨f, hf, hft⟩ := List.mem_filterMap.1 htmem
  exact not_allHold f.aspect.type_mem (by simp [(h f hf).statusOf?, status, hft])

theorem get?_happy_marks_of_told (h : Regular cs) (fs : List Finding) (hid : ∀ f ∈ fs, f.aspect ≠ .identity)
    (hno : cs.statusOf? Aspect.identity.type ≠ some .no) (htold : ∀ f ∈ fs, f.Told cs)
    (hall : ¬ sequenceConditions.allHold cs = true) :
    (marks now fs cs).get? sequenceConditions.happy =
      unsettleAll now (troubles fs) (cs.get? sequenceConditions.happy) := by
  obtain ⟨b, hb⟩ : ∃ b : Aspect, cs.statusOf? b.type ≠ some .yes := by
    refine Classical.byContradiction fun hnone => hall (allHold_iff.2 fun d hd => ?_)
    obtain ⟨a, rfl⟩ := Aspect.exists_of_mem hd
    exact Classical.byContradiction fun ha => hnone ⟨a, ha⟩
  refine get?_happy_marks now h fs hid hno b hb fun f hf e hf' => hb ?_
  rw [← e, (htold f hf).statusOf?, status, hf']
  rfl

/-- The happy condition after the same marks once more. The time of the first marks shows in it if there was more than
one trouble, and then that of the second ones takes its place. -/
theorem happy_marks_again (t₁ t₂ : DateTime) (h : Regular cs) (hpresent : cs.get? sequenceConditions.happy ≠ none)
    (channels : List Channel) (subscriptions : List Subscription) :
    let fs := ofPass channels subscriptions
    let once := marks t₁ fs cs
    ∃ c, once.get? sequenceConditions.happy = some c ∧
      if cs.statusOf? Aspect.identity.type = some .no ∨ (troubles fs).length ≤ 1 then
        (marks t₂ fs once).get? sequenceConditions.happy = some c
      else c.transition = some t₁.truncated ∧
        (marks t₂ fs once).get? sequenceConditions.happy = some { c with transition := some t₂.truncated } := by
  intro fs once
  have hid : ∀ f ∈ fs, f.aspect ≠ .identity := aspect_ne_identity channels subscriptions
  have hnd : (fs.map aspect).Nodup := nodup_ofPass channels subscriptions
  have honce : Regular once := regular_marks t₁ fs h
  have htold : ∀ f ∈ fs, f.Told once := told_marks t₁ h.backed.distinct fs hnd
  have hidentity : once.statusOf? Aspect.identity.type = cs.statusOf? Aspect.identity.type :=
    statusOf?_marks_of_notMem t₁ fs hid
  obtain ⟨c, hc⟩ := Option.ne_none_iff_exists'.1 (get?_marks_ne_none t₁ fs hpresent)
  refine ⟨c, hc, ?_⟩
  by_cases hno : cs.statusOf? Aspect.identity.type = some .no
  · rw [if_pos (Or.inl hno)]
    exact (get?_happy_marks_of_failing t₂ honce fs hid (hidentity.trans hno)).trans hc
  have hno' : once.statusOf? Aspect.identity.type ≠ some .no := by rwa [hidentity]
  have hagain := get?_happy_marks_of_told t₂ honce fs hid hno' htold
  have hopen := not_allHold_of_trouble fs htold
  have hfirst := exists_get?_happy_marks t₁ h fs hid hno hnd
  have hdistinct : (troubles fs).Nodup := nodup_troubles channels subscriptions
  match ht : troubles fs with
  | [] =>
    -- either the last mark has raised the happy condition, or no mark of either pass touches it
    rw [if_pos (Or.inr (by simp))]
    by_cases hall : sequenceConditions.allHold once = true
    · obtain ⟨d, hd, hraised⟩ := raised_of_marks t₁ h.backed.distinct (ofChannels channels) hall
      obtain rfl : c = d := Option.some.inj (hc.symm.trans hd)
      exact get?_happy_marks_of_raised t₂ honce.backed.distinct fs ht hc hraised
    · rw [hagain hall, ht]
      exact hc
  | [t] =>
    -- what the one trouble wrote last is on record when it is written again
    rw [if_pos (Or.inr (by simp))]
    rw [ht] at hagain hopen hfirst
    obtain ⟨old, hold⟩ := hfirst (by simp)
    obtain rfl : c = (unsettled t).recorded t₁ old := Option.some.inj (hc.symm.trans hold)
    rw [hagain (hopen (by simp)), hc]
    exact congrArg some (Condition.recorded_again t₁ t₂ _ old)
  | t :: u :: ts =>
    -- each pass ends with the last trouble at its own time, whatever the pass before has left
    rw [ht] at hagain hopen hfirst hdistinct
    obtain ⟨last, hlast⟩ := unsettleAll_of_two hdistinct
    obtain ⟨old, hold⟩ := hfirst (by simp)
    obtain rfl : c = { unsettled last with transition := some t₁.truncated } :=
      Option.some.inj (hc.symm.trans (hold.trans (hlast t₁ old)))
    rw [if_neg (by simp [hno])]
    exact ⟨rfl, (hagain (hopen (by simp))).trans (hlast t₂ _)⟩

end Finding

namespace SequenceStatus

open Finding

variable {now : DateTime} {s : SequenceStatus}

/-! ## Entries -/

theorem observe_again (t₁ t₂ : DateTime) (k : ChildKind) (previous : Option StageStatus) (child : Reference)
    (ready? : Option Condition) :
    observe t₂ k (some (observe t₁ k previous child ready?)) child ready? = observe t₁ k previous child ready? := by
  cases ready? with
  | some c => rfl
  | none => exact observe_of_standsFor t₂ k child (standsFor_observe t₁ k previous child)

theorem observeAll_again (t₁ t₂ : DateTime) (k : ChildKind) (before : List StageStatus)
    (children : List (Reference × Option Condition)) :
    observeAll t₂ k (observeAll t₁ k before children) children = observeAll t₁ k before children := by
  induction children generalizing before with
  | nil => rfl
  | cons child rest ih =>
    obtain ⟨child, ready?⟩ := child
    show observe t₂ k (some (observe t₁ k before.head? child ready?)) child ready? ::
      observeAll t₂ k (observeAll t₁ k before.tail rest) rest = _
    rw [observe_again, ih]
    rfl

/-- The fields that a pass rebuilds are the same after another pass. -/
theorem rebuilt_again (host : Work) (t₁ t₂ : DateTime) (cs : List Channel) (ss : List Subscription)
    (after : Conditions) :
    ((s.rebuilt host t₁ cs ss).withConditions after).rebuilt host t₂ cs ss =
      (s.rebuilt host t₁ cs ss).withConditions after := by
  have hchannels := observeAll_again t₁ t₂ .channel s.channels (cs.map Channel.seen)
  have hsubscriptions := observeAll_again t₁ t₂ .subscription s.subscriptions (ss.map Subscription.seen)
  simp only [rebuilt, withConditions, hchannels, hsubscriptions]
  split <;> rfl

theorem pass_again (host : Work) (t₁ t₂ : DateTime) (channels : Option (List Channel))
    (subscriptions : Option (List Subscription)) :
    let first := s.pass host t₁ channels subscriptions
    let second := first.pass host t₂ channels subscriptions
    second = first.withConditions second.conditions := by
  intro first second
  obtain ⟨_, hfirst⟩ : ∃ after, first = _ := pass_frame t₁ s host channels subscriptions
  obtain ⟨after, hsecond⟩ : ∃ after, second = _ := pass_frame t₂ first host channels subscriptions
  have hconditions : second.conditions = after := congrArg conditions hsecond
  rw [hconditions, hsecond, hfirst, rebuilt_again]

/-! ## The second pass -/

/-- There is nothing left to seed. -/
theorem conditions_pass_again (steps : List Step) (host : Work) (t₁ t₂ : DateTime) (channels : Option (List Channel))
    (subscriptions : Option (List Subscription)) :
    let first := (reached steps).pass host t₁ channels subscriptions
    (first.pass host t₂ channels subscriptions).conditions =
      marks t₂ (ofPass (channels.getD []) (subscriptions.getD [])) first.conditions := by
  intro first
  have hpresent : ∀ t ∈ sequenceConditions.types, first.conditions.get? t ≠ none := by
    intro t ht
    rw [show first.conditions = _ from conditions_pass host channels subscriptions]
    exact get?_marks_ne_none t₁ _ (get?_seeded_ne_none t₁ steps t ht)
  rw [conditions_pass, seedMissing_of_present hpresent]

theorem written_pass_again (steps : List Step) (host : Work) (t₁ t₂ : DateTime) (channels : Option (List Channel))
    (subscriptions : Option (List Subscription)) :
    let first := (reached steps).pass host t₁ channels subscriptions
    Regular first.conditions ∧
    Written [sequenceConditions.happy] first.conditions (first.pass host t₂ channels subscriptions).conditions := by
  intro first
  have hseeded := regular_seeded t₁ steps
  have hfirst : first.conditions = _ := conditions_pass host channels subscriptions
  have htold : ∀ f ∈ ofPass (channels.getD []) (subscriptions.getD []), f.Told first.conditions :=
    hfirst ▸ told_marks t₁ hseeded.backed.distinct _ (nodup_ofPass _ _)
  refine ⟨hfirst ▸ regular_marks t₁ _ hseeded, ?_⟩
  rw [conditions_pass_again]
  exact written_marks_of_told t₂ _ htold

/-- All is decided by the happy condition. -/
theorem pass_again_eq_iff (steps : List Step) (host : Work) (t₁ t₂ : DateTime) (channels : Option (List Channel))
    (subscriptions : Option (List Subscription)) :
    let first := (reached steps).pass host t₁ channels subscriptions
    let second := first.pass host t₂ channels subscriptions
    second = first ↔
      second.conditions.get? sequenceConditions.happy = first.conditions.get? sequenceConditions.happy := by
  intro first second
  obtain ⟨hregular, hwritten⟩ := written_pass_again steps host t₁ t₂ channels subscriptions
  refine ⟨fun e => by rw [e], fun hhappy => ?_⟩
  have hconditions : second.conditions = first.conditions := by
    refine eq_of_get? (hwritten.sorted hregular.sorted) hregular.sorted fun type => ?_
    by_cases ht : type = sequenceConditions.happy
    · rw [ht, hhappy]
    · exact hwritten.get?_eq (by simpa using ht)
  have hfields : second = first.withConditions second.conditions := pass_again host t₁ t₂ channels subscriptions
  rw [hfields, hconditions]
  rfl

/-- **The same pass again.** A second pass over the same children changes nothing but, possibly, the time of the happy
condition. It leaves that alone, and so is no change at all, if the identity has failed, if there was at most one
trouble, or if both passes were within the same second; otherwise it moves it to its own time. -/
theorem repeat_pass (steps : List Step) (host : Work) (t₁ t₂ : DateTime) (channels : Option (List Channel))
    (subscriptions : Option (List Subscription)) :
    let first := (reached steps).pass host t₁ channels subscriptions
    let second := first.pass host t₂ channels subscriptions
    let stable := (reached steps).conditions.fails Aspect.identity.type = true ∨
      (troubles (ofPass (channels.getD []) (subscriptions.getD []))).length ≤ 1
    second = first.withConditions second.conditions ∧
    (∀ type, type ≠ sequenceConditions.happy → second.conditions.get? type = first.conditions.get? type) ∧
    (∃ ready, first.conditions.get? sequenceConditions.happy = some ready ∧
      second.conditions.get? sequenceConditions.happy =
        some (if stable then ready else { ready with transition := some t₂.truncated })) ∧
    (second = first ↔ stable ∨ t₁.truncated = t₂.truncated) := by
  intro first second stable
  have hfirst : first.conditions = marks t₁ _ ((reached steps).seeded t₁) := conditions_pass host channels subscriptions
  have hsecond : second.conditions = _ := conditions_pass_again steps host t₁ t₂ channels subscriptions
  have hidentity : ((reached steps).seeded t₁).statusOf? Aspect.identity.type = some .no ↔
      (reached steps).conditions.fails Aspect.identity.type = true := by
    rw [statusOf?_seeded, fails_iff]
    cases (reached steps).conditions.statusOf? Aspect.identity.type <;> simp
  obtain ⟨ready, hready, hagain⟩ := happy_marks_again t₁ t₂ (regular_seeded t₁ steps)
    (get?_seeded_ne_none t₁ steps _ List.mem_cons_self) (channels.getD []) (subscriptions.getD [])
  rw [← hfirst] at hready hagain
  simp only [hidentity] at hagain
  rw [← hsecond] at hagain
  refine ⟨pass_again host t₁ t₂ channels subscriptions, fun type ht => ?_, ?_⟩
  · exact (written_pass_again steps host t₁ t₂ channels subscriptions).2.get?_eq (by simpa using ht)
  have hsame : second = first ↔
      second.conditions.get? sequenceConditions.happy = first.conditions.get? sequenceConditions.happy :=
    pass_again_eq_iff steps host t₁ t₂ channels subscriptions
  rw [hsame]
  by_cases hstable : stable
  · rw [if_pos hstable] at hagain
    refine ⟨⟨ready, hready, by rw [if_pos hstable, hagain]⟩, ?_⟩
    exact iff_of_true (hagain.trans hready.symm) (Or.inl hstable)
  · rw [if_neg hstable] at hagain
    obtain ⟨htime, hagain⟩ := hagain
    refine ⟨⟨ready, hready, by rw [if_neg hstable, hagain]⟩, ?_⟩
    rw [or_iff_right hstable, hagain, hready]
    constructor
    · intro e
      have := congrArg Condition.transition (Option.some.inj e)
      exact (Option.some.inj (this.trans htime)).symm
    · intro e
      rw [← e, ← htime]

/-- Without children there is trouble with the channels and with the subscriptions, and a second later a pass is a
change. -/
theorem pass_again_ne_without_children :
    let host : Work := { sequence := {} }
    let t₁ : DateTime := ⟨.epoch, .midnight, some .utc⟩
    let t₂ : DateTime := ⟨.epoch, ⟨0, 0, 1, 0⟩, some .utc⟩
    let first := (reached []).pass host t₁ none none
    first.pass host t₂ none none ≠ first := by
  decide

end SequenceStatus

end Readiness
