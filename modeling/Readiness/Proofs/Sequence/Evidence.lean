import Readiness.Proofs.Sequence.Runs

/-!
# What a status shows for its conditions

A condition only says something. What backs it is kept next to it: the entries of the children, and the address. The
operations write the two separately, marks may take back what a condition says and leave the entries in place, and an
empty list of channels leaves the address in place; but nothing is ever true that the rest of the status does not show
(`Evidenced`). Seeding is where this could go wrong, since it sets missing dependents to true under a happy condition
that is true. In a run there are none missing then.

The address also has a source: it is what the last channels to be propagated said (`address_run`).
-/
namespace Readiness

open Calendar ConditionSet Conditions Declaration

namespace SequenceStatus

/-- There are entries, and all of them say that the child is ready. -/
def EveryReady (entries : List StageStatus) : Prop := entries ≠ [] ∧ ∀ e ∈ entries, e.ready.status = .yes

theorem everyReady_iff {entries : List StageStatus} : allReady entries = true ↔ EveryReady entries := by
  simp [allReady, EveryReady]

/-- What the status shows for an aspect, besides the condition. The identity leaves no other trace. -/
def Shows (s : SequenceStatus) : Aspect → Prop
  | .channels => EveryReady s.channels
  | .subscriptions => EveryReady s.subscriptions
  | .address => s.address.isEmpty = false
  | .identity => True

/-- What is true is shown. -/
structure Evidenced (s : SequenceStatus) : Prop where
  regular : Regular s.conditions
  shows : ∀ a : Aspect, s.conditions.statusOf? a.type = some .yes → s.Shows a

variable {now : DateTime} {s t : SequenceStatus}

/-! ## Marks and seeds -/

theorem shows_onConditions {op : Conditions → Outcome} (a : Aspect) : (s.onConditions op).Shows a = s.Shows a := by
  cases a <;> rfl

/-- An operation on the conditions leaves the rest of the evidence in place. -/
theorem evidenced_onConditions {op : Conditions → Outcome} (hreg : Regular (op s.conditions).conditions)
    (hshows : ∀ b : Aspect, (op s.conditions).conditions.statusOf? b.type = some .yes → s.Shows b) :
    Evidenced (s.onConditions op) := by
  refine ⟨hreg, fun b hb => ?_⟩
  rw [shows_onConditions]
  exact hshows b hb

/-- What is marked true has to be shown by then; the rest of the evidence stays. -/
theorem Evidenced.markTrueWith (h : Evidenced s) (a : Aspect) (reason message : Text)
    (hc : t.conditions = s.conditions) (hframe : ∀ b, b ≠ a → s.Shows b → t.Shows b) (hself : t.Shows a) :
    Evidenced (t.markTrueWith now a reason message) := by
  refine evidenced_onConditions (kept_regular.markTrue now a _ _ _ (hc ▸ h.regular)) fun b hb => ?_
  by_cases hba : b = a
  · rw [hba]
    exact hself
  · have hsame := (statusOf?_aspect_markTrueWith _ _ _ (hc ▸ h.regular.backed.distinct) a b).symm.trans hb
    rw [if_neg hba, hc] at hsame
    exact hframe b hba (h.shows b hsame)

theorem Evidenced.markUnknown (h : Evidenced s) (a : Aspect) (reason message : Text)
    (hc : t.conditions = s.conditions) (hframe : ∀ b, b ≠ a → s.Shows b → t.Shows b) :
    Evidenced (t.markUnknown now a reason message) := by
  refine evidenced_onConditions (kept_regular.markUnknown now a _ _ _ (hc ▸ h.regular)) fun b hb => ?_
  have hsame := (statusOf?_aspect_markUnknown _ _ _ (hc ▸ h.regular.backed.distinct) a b).symm.trans hb
  by_cases hba : b = a
  · rw [if_pos hba] at hsame
    simp at hsame
  · rw [if_neg hba, hc] at hsame
    exact hframe b hba (h.shows b hsame)

theorem Evidenced.identityFailed (h : Evidenced s) (reason message : Text) :
    Evidenced (s.markFalse now .identity reason message) := by
  refine evidenced_onConditions (kept_regular.markFalse now _ _ _ h.regular) fun b hb => ?_
  have hsame := (statusOf?_aspect_markFalse _ _ _ h.regular.backed.distinct .identity b).symm.trans hb
  split at hsame
  · simp at hsame
  · exact h.shows b hsame

/-- A missing dependent is never seeded as true. -/
theorem Evidenced.seedMissing (h : Evidenced s) : Evidenced (s.seedMissing now) := by
  refine evidenced_onConditions (kept_regular.seed now _ h.regular) fun b hb => ?_
  refine h.shows b ?_
  have hsame := (statusOf?_aspect_seedMissing _ h.regular b).symm.trans hb
  cases hold : s.conditions.statusOf? b.type <;> simp_all

/-! ## Propagations -/

theorem Evidenced.setAddress (h : Evidenced s) (a : Option Address) : Evidenced (s.setAddress now a) := by
  have hframe : ∀ (new : Address) b, b ≠ Aspect.address → s.Shows b → { s with address := new }.Shows b := by
    intro new b hb
    cases b <;> first | exact id | exact absurd rfl hb
  unfold SequenceStatus.setAddress
  split
  · rename_i url hurl
    obtain ⟨_, _, htarget⟩ := Option.bind_eq_some_iff.1 hurl
    refine h.markTrueWith .address "" "" rfl (hframe _) ?_
    simp [Shows, Address.isEmpty, Address.target?, (Address.target?_eq_some_iff.1 htarget).2]
  · exact h.markUnknown .address _ _ rfl (hframe _)

theorem Evidenced.markChildren (h : Evidenced s) (k : ChildKind) (entries : List StageStatus)
    (hc : t.conditions = s.conditions) (hframe : ∀ b, b ≠ k.aspect → s.Shows b → t.Shows b)
    (hself : t.Shows k.aspect = EveryReady entries) : Evidenced (t.markChildren now k entries) := by
  unfold SequenceStatus.markChildren
  split
  · rename_i hall
    exact h.markTrueWith k.aspect "" "" hc hframe (hself ▸ everyReady_iff.1 hall)
  · exact h.markUnknown k.aspect _ _ hc hframe

theorem Evidenced.propagateChannels (h : Evidenced s) (cs : List Channel) :
    Evidenced (s.propagateChannels now cs) := by
  have hframe : ∀ (t : SequenceStatus) (entries : List StageStatus) b, b ≠ Aspect.channels → t.Shows b →
      { t with channels := entries }.Shows b := by
    intro t entries b hb
    cases b <;> first | exact id | exact absurd rfl hb
  cases cs with
  | nil => exact h.markChildren .channel _ rfl (hframe _ _) rfl
  | cons c _ => exact (h.setAddress c.status.address).markChildren .channel _ rfl (hframe _ _) rfl

theorem Evidenced.propagateSubscriptions (h : Evidenced s) (ss : List Subscription) :
    Evidenced (s.propagateSubscriptions now ss) := by
  refine h.markChildren .subscription _ rfl (fun b hb => ?_) rfl
  cases b <;> first | exact id | exact absurd rfl hb

/-! ## Runs -/

theorem Evidenced.apply (h : Evidenced s) (op : Operation) : Evidenced (op.apply now s) := by
  cases op with
  | seedMissing => exact h.seedMissing
  | propagateChannels channels => exact h.propagateChannels _
  | propagateSubscriptions subscriptions => exact h.propagateSubscriptions _
  | markUnknown a reason message => exact h.markUnknown a _ _ rfl fun _ _ => id
  | identityCreated => exact h.markTrueWith .identity "" "" rfl (fun _ _ => id) trivial
  | identityCreatedWith reason message => exact h.markTrueWith .identity _ _ rfl (fun _ _ => id) trivial
  | identityFailed reason message => exact h.identityFailed _ _
  | pass host channels subscriptions =>
    have hderived : Evidenced (((s.seedMissing now).propagateChannels now (channels.getD [])).propagateSubscriptions now
        (subscriptions.getD [])) :=
      (h.seedMissing.propagateChannels _).propagateSubscriptions _
    exact ⟨hderived.regular, fun a ha => by cases a <;> exact hderived.shows _ ha⟩
  | fetchFailure host kind error =>
    show Evidenced (s.fetchFailure host now kind error)
    rw [fetchFailure_eq]
    split
    · exact h.markUnknown _ _ _ rfl fun _ _ => id
    · exact h

theorem evidenced_reached (steps : List Step) : Evidenced (reached steps) :=
  run_keeps (fun _ op _ h => h.apply op) steps ⟨regular_nil, by simp [conditions, statusOf?, get?]⟩

/-! ## Where the address comes from -/

/-- The channels that an operation propagates. -/
def Operation.channels : Operation → List Channel
  | .propagateChannels channels | .pass _ channels _ => channels.getD []
  | _ => []

/-- The first channel of the last list that was propagated and not empty. -/
def entryChannel (steps : List Step) : Option Channel := (steps.filterMap fun st => st.2.channels.head?).getLast?

theorem address_apply (now : DateTime) (s : SequenceStatus) (op : Operation) :
    (op.apply now s).address = if op.channels = [] then s.address else addressOf op.channels.head? := by
  obtain ⟨_, hframe⟩ := apply_frame now s op
  rw [hframe]
  cases op with
  | propagateSubscriptions subscriptions => exact (if_pos rfl).symm
  | _ => rfl

/-- A run that starts with the address of `c`. -/
theorem address_run (steps : List Step) {c : Option Channel} (h : s.address = addressOf c) :
    (run steps s).address = addressOf ((entryChannel steps).or c) := by
  induction steps generalizing s c with
  | nil => exact h
  | cons st steps ih =>
    have hstep := address_apply st.1 s st.2
    rw [entryChannel, List.filterMap_cons]
    cases hhead : st.2.channels with
    | nil =>
      rw [if_pos hhead] at hstep
      exact ih (hstep.trans h)
    | cons d ds =>
      rw [if_neg (by simp [hhead]), hhead] at hstep
      refine (ih hstep).trans ?_
      rw [List.head?_cons, List.getLast?_cons]
      show addressOf ((entryChannel steps).or (some d)) = addressOf (some ((entryChannel steps).getD d))
      cases entryChannel steps <;> rfl

/-- **What stands behind a status.** After any run the address is the one that the first channel advertised when
channels were last propagated and there were some; an aspect whose condition is true is shown by the rest of the
status; and a sequence that is ready has everything to show. -/
theorem evidence_of_reached (steps : List Step) :
    (reached steps).address = addressOf (entryChannel steps) ∧
    (∀ a : Aspect, (reached steps).conditions.holds a.type = true → (reached steps).Shows a) ∧
    ((reached steps).isReady = true →
      ∀ a : Aspect, (reached steps).conditions.holds a.type = true ∧ (reached steps).Shows a) := by
  have hev := evidenced_reached steps
  refine ⟨?_, ?_, ?_⟩
  · rw [address_run steps (c := none) rfl, Option.or_none]
  · intro a ha
    exact hev.shows a (holds_iff.1 ha)
  · intro hready a
    have hyes := hev.regular.backed.true_iff.1 (holds_iff.1 hready) a.type a.type_mem
    exact ⟨holds_iff.2 hyes, hev.shows a hyes⟩

end SequenceStatus

end Readiness
