import Readiness.Proofs.Condition.Seeding
import Readiness.Proofs.Sequence.Outcome

/-!
# Calls on stored sequences

A sequence that was stored may hold anything: conditions of types that nobody here tracks, types out of order and
several conditions of one type. Passes and failed fetches write to conditions of their own types alone, so everything
else comes through any number of them (`Untouched`), entry by entry. The identity is tracked but never found out about:
it is seeded by the first pass if it is missing, and that is all (`identityEntries_apply`).

A call that raises counts as well: one about children that it does not know does nothing, and one in a context that
cannot be copied stops at its first record, with what it had changed until then.
-/
namespace Readiness

open Calendar ConditionSet Conditions Declaration

namespace Sequence

/-- What is not for passes to change is the same. Of other types all conditions are there, in stored order. -/
structure Untouched (before after : Sequence) : Prop where
  identity : after.identity = before.identity
  spec : after.spec = before.spec
  auth : after.status.auth = before.status.auth
  annotations : after.status.health.annotations = before.status.health.annotations
  conditions : ∀ type ∉ sequenceConditions.types,
    after.status.conditions.ofType type = before.status.conditions.ofType type

theorem Untouched.refl (s : Sequence) : Untouched s s := ⟨rfl, rfl, rfl, rfl, fun _ _ => rfl⟩

theorem Untouched.trans {s₁ s₂ s₃ : Sequence} (h : Untouched s₁ s₂) (h' : Untouched s₂ s₃) : Untouched s₁ s₃ where
  identity := h'.identity.trans h.identity
  spec := h'.spec.trans h.spec
  auth := h'.auth.trans h.auth
  annotations := h'.annotations.trans h.annotations
  conditions type ht := (h'.conditions type ht).trans (h.conditions type ht)

/-- The conditions about the identity of a sequence, in stored order. -/
def identityEntries (s : Sequence) : Conditions := s.status.conditions.ofType Aspect.identity.type

end Sequence

namespace SequenceStatus

variable {now : DateTime} {s : SequenceStatus}

/-- Seeds and marks leave conditions of other types as they are. -/
theorem kept_ofType {type : String} (ht : type ∉ sequenceConditions.types) (cs : Conditions) :
    Kept fun ds => ds.ofType type = cs.ofType type := by
  have hmark : ∀ {a : Aspect} {ds es : Conditions}, Written [a.type, sequenceConditions.happy] ds es →
      es.ofType type = ds.ofType type := by
    intro a ds es hw
    refine hw.ofType_eq fun hmem => ht ?_
    rcases List.mem_cons.1 hmem with rfl | hmem
    · exact List.mem_cons_of_mem _ a.type_mem
    · exact List.mem_cons.2 (Or.inl (List.mem_singleton.1 hmem))
  constructor
  case seed => exact fun now ds h => ((seedMissing_spec wellNamed_sequenceConditions now ds).1.ofType_eq ht).trans h
  case markTrue => exact fun now a _ _ ds h => (hmark (written_markTrueWith a.type)).trans h
  case markUnknown => exact fun now a _ _ ds h => (hmark (written_markUnknown a.type)).trans h
  case markFalse => exact fun now _ _ ds h => (hmark (written_markFalse Aspect.identity.type)).trans h

/-! ## The identity -/

/-- What the identity is seeded with. -/
def identitySeed (now : DateTime) (s : SequenceStatus) : Condition where
  type := Aspect.identity.name
  status := if s.conditions.holds sequenceConditions.happy then .yes else .unknown
  severity := .error
  transition := some now.truncated
  reason := ""
  message := ""

theorem ofType_identity_seeded (now : DateTime) (s : SequenceStatus) :
    (s.seeded now).ofType Aspect.identity.type = match s.conditions.ofType Aspect.identity.type with
      | [] => [identitySeed now s]
      | c :: cs => c :: cs := by
  cases hold : s.conditions.ofType Aspect.identity.type with
  | nil =>
    have hseeds := seeds_of_seedMissing wellNamed_sequenceConditions now s.conditions
    have htracked : Aspect.identity.name.val ∈ sequenceConditions.types :=
      List.mem_cons_of_mem _ Aspect.identity.name_mem
    exact hseeds.ofType_of_absent (by decide) htracked (ofType_eq_nil.1 hold)
  | cons c cs =>
    have hpresent : s.conditions.get? Aspect.identity.type ≠ none := by
      simp [← ofType_eq_nil, hold]
    exact (ofType_seedMissing _ now hpresent).trans hold

/-- Children tell nothing about the identity. -/
theorem ofType_identity_marks {cs : Conditions} {fs : List Finding} (h : ∀ f ∈ fs, f.aspect ≠ .identity) :
    (Finding.marks now fs cs).ofType Aspect.identity.type = cs.ofType Aspect.identity.type := by
  refine (Finding.written_marks now fs).ofType_eq ?_
  simpa [Aspect.identity.type_ne_happy] using h

theorem ofType_identity_propagateChannels (cs : List Channel) :
    (s.propagateChannels now cs).conditions.ofType Aspect.identity.type =
      s.conditions.ofType Aspect.identity.type := by
  rw [conditions_propagateChannels]
  exact ofType_identity_marks fun f hf => Finding.aspect_ne_identity cs [] f (List.mem_append_left _ hf)

theorem ofType_identity_pass (host : Work) (channels : Option (List Channel))
    (subscriptions : Option (List Subscription)) :
    (s.pass host now channels subscriptions).conditions.ofType Aspect.identity.type =
      (s.seeded now).ofType Aspect.identity.type := by
  rw [marks_of_pass]
  exact ofType_identity_marks (Finding.aspect_ne_identity _ _)

theorem ofType_identity_fetchFailure (host : Work) (kind error : Text) :
    (s.fetchFailure host now kind error).conditions.ofType Aspect.identity.type =
      s.conditions.ofType Aspect.identity.type := by
  rw [fetchFailure_eq]
  split
  · rename_i k _
    exact (written_markUnknown k.aspect.type).ofType_eq (by cases k <;> decide)
  · rfl

end SequenceStatus

namespace Work

/-! ## Calls -/

/-- The sequence and the journal after a call, also one that raises. -/
def Call.apply (now : DateTime) (call : Call) (w : Work) : Work := (call.perform now w).2

/-- Calls one after another, each at its own point in time. -/
def run (calls : List (DateTime × Call)) (w : Work) : Work := calls.foldl (fun w call => call.2.apply call.1 w) w

/-- What a call does to the status, step by step. A pass in a context that cannot be copied ends after the channels. -/
def Call.steps (now : DateTime) (host : Work) : Call → List SequenceStatus.Step
  | .reconcile channels subscriptions =>
    match (Call.context host (.reconcile channels subscriptions)).fields with
    | .ok _ => [(now, .pass host channels subscriptions)]
    | .error _ => [(now, .seedMissing), (now, .propagateChannels channels)]
  | .fetchFailure kind error => [(now, .fetchFailure host kind error)]

def Call.IsPass : Call → Prop
  | .reconcile _ _ => True
  | .fetchFailure _ _ => False

variable {now : DateTime} {w : Work} {call : Call} {calls : List (DateTime × Call)}

theorem sequence_markFetchFailure (now : DateTime) (kind error : Text) (w : Work) :
    (w.markFetchFailure now kind error).2.sequence = w.sequence.mapStatus (·.fetchFailure w now kind error) := by
  unfold SequenceStatus.fetchFailure markFetchFailure within
  dsimp only
  cases ChildKind.ofPlural? kind <;> rfl

theorem sequence_apply (now : DateTime) (call : Call) (w : Work) :
    (call.apply now w).sequence = w.sequence.mapStatus (SequenceStatus.run (call.steps now w)) := by
  cases call with
  | reconcile channels subscriptions =>
    simp only [Call.apply, Call.perform, Call.steps]
    cases (Call.context w (.reconcile channels subscriptions)).fields <;> rfl
  | fetchFailure kind error =>
    refine Eq.trans ?_ (sequence_markFetchFailure now kind error w)
    simp only [Call.apply, Call.perform]
    cases w.markFetchFailure now kind error with
    | mk result after => cases result <;> cases (Call.context w (.fetchFailure kind error)).fields <;> rfl

theorem run_append (earlier later : List (DateTime × Call)) (w : Work) :
    run (earlier ++ later) w = run later (run earlier w) := by
  simp [run]

theorem untouched_apply (now : DateTime) (call : Call) (w : Work) :
    w.sequence.Untouched (call.apply now w).sequence := by
  rw [sequence_apply]
  constructor
  case identity => rfl
  case spec => rfl
  case auth =>
    exact SequenceStatus.run_keeps (P := fun s => s.auth = w.sequence.status.auth)
      (fun now op s h => (SequenceStatus.auth_apply now s op).trans h) _ rfl
  case annotations =>
    exact SequenceStatus.run_keeps (P := fun s => s.health.annotations = w.sequence.status.health.annotations)
      (fun now op s h => (SequenceStatus.annotations_apply now s op).trans h) _ rfl
  case conditions => exact fun type ht => (SequenceStatus.kept_ofType ht w.sequence.status.conditions).run _ rfl

theorem untouched_run (calls : List (DateTime × Call)) (w : Work) : w.sequence.Untouched (run calls w).sequence := by
  induction calls generalizing w with
  | nil => exact .refl _
  | cons call calls ih => exact (untouched_apply call.1 call.2 w).trans (ih _)

/-- Only a pass writes the identity, and only where there is none. -/
theorem identityEntries_apply (now : DateTime) (call : Call) (w : Work) :
    (call.apply now w).sequence.identityEntries = match call, w.sequence.identityEntries with
      | .reconcile _ _, [] => [SequenceStatus.identitySeed now w.sequence.status]
      | _, entries => entries := by
  unfold Sequence.identityEntries
  rw [sequence_apply]
  cases call with
  | reconcile channels subscriptions =>
    have hseeded : (SequenceStatus.run (Call.steps now w (.reconcile channels subscriptions))
        w.sequence.status).conditions.ofType Aspect.identity.type =
          (w.sequence.status.seeded now).ofType Aspect.identity.type := by
      cases hshown : (Call.context w (.reconcile channels subscriptions)).fields with
      | ok shown =>
        simp only [Call.steps, hshown]
        exact SequenceStatus.ofType_identity_pass w channels subscriptions
      | error f =>
        simp only [Call.steps, hshown]
        exact SequenceStatus.ofType_identity_propagateChannels _
    refine (hseeded.trans (SequenceStatus.ofType_identity_seeded now _)).trans ?_
    cases w.sequence.status.conditions.ofType Aspect.identity.type <;> rfl
  | fetchFailure kind error => exact SequenceStatus.ofType_identity_fetchFailure w kind error

theorem identityEntries_run_of_present (h : w.sequence.identityEntries ≠ []) :
    (run calls w).sequence.identityEntries = w.sequence.identityEntries := by
  induction calls generalizing w with
  | nil => rfl
  | cons call calls ih =>
    have hcall : (call.2.apply call.1 w).sequence.identityEntries = w.sequence.identityEntries := by
      rw [identityEntries_apply]
      split
      · contradiction
      · rfl
    exact (ih (by rwa [hcall])).trans hcall

theorem identityEntries_run_of_no_pass (h : ∀ call ∈ calls, ¬ call.2.IsPass) :
    (run calls w).sequence.identityEntries = w.sequence.identityEntries := by
  induction calls generalizing w with
  | nil => rfl
  | cons call calls ih =>
    obtain ⟨hcall, hcalls⟩ := List.forall_mem_cons.1 h
    obtain ⟨now, call⟩ := call
    cases call with
    | reconcile channels subscriptions => exact absurd trivial hcall
    | fetchFailure kind error => exact (ih hcalls).trans (identityEntries_apply now (.fetchFailure kind error) w)

theorem identityEntries_run_of_first_pass {earlier later : List (DateTime × Call)}
    {channels : Option (List Channel)} {subscriptions : Option (List Subscription)}
    (habsent : w.sequence.identityEntries = []) (hfirst : ∀ call ∈ earlier, ¬ call.2.IsPass) :
    (run (earlier ++ (now, .reconcile channels subscriptions) :: later) w).sequence.identityEntries =
      [SequenceStatus.identitySeed now (run earlier w).sequence.status] := by
  have hbefore := (identityEntries_run_of_no_pass hfirst).trans habsent
  have hpass := identityEntries_apply now (.reconcile channels subscriptions) (run earlier w)
  rw [hbefore] at hpass
  rw [run_append]
  show (run later (Call.apply now (.reconcile channels subscriptions) (run earlier w))).sequence.identityEntries = _
  rw [identityEntries_run_of_present (by simp [hpass]), hpass]

/-- **A pass touches only what it owns.** Whatever a sequence has stored, conditions in any order and with types repeated
included, any run of passes and of failed fetches, with any children, at any times and with any texts, leaves its
identity, its spec, its authentication and the annotations of its status alone, and of every type that it does not track
all conditions, in stored order. Of the identity's own condition all entries stay as well. Only where there is none, the
first pass adds one, which is true if the happy condition is at that time, and otherwise unknown. -/
theorem frame_of_calls (calls : List (DateTime × Call)) (w : Work) :
    w.sequence.Untouched (run calls w).sequence ∧
    (w.sequence.identityEntries ≠ [] ∨ (∀ call ∈ calls, ¬ call.2.IsPass) →
      (run calls w).sequence.identityEntries = w.sequence.identityEntries) ∧
    ∀ earlier now channels subscriptions later, calls = earlier ++ (now, .reconcile channels subscriptions) :: later →
      (∀ call ∈ earlier, ¬ call.2.IsPass) → w.sequence.identityEntries = [] →
        (run calls w).sequence.identityEntries = [SequenceStatus.identitySeed now (run earlier w).sequence.status] := by
  refine ⟨untouched_run calls w, ?_, ?_⟩
  · rintro (hpresent | hnone)
    · exact identityEntries_run_of_present hpresent
    · exact identityEntries_run_of_no_pass hnone
  · rintro earlier now channels subscriptions later rfl hfirst habsent
    exact identityEntries_run_of_first_pass habsent hfirst

/-- A foreign type that is stored twice comes through. The failed fetch takes the happy condition back before the first
pass, so the identity is seeded as unknown. -/
theorem frame_of_calls_on_foreign_types :
    let foreign (status : Status) : Condition := { type := ⟨"Scheduled", by decide⟩, status := status }
    let ready : Condition := { type := ⟨"Ready", by decide⟩, status := .yes }
    let stored : Conditions := [foreign .yes, ready, foreign .no]
    let w : Work := { sequence := { status := { health := { conditions := stored } } } }
    let failure : DateTime × Call := (default, .fetchFailure "channels" "timeout")
    let pass : DateTime × Call := (default, .reconcile none none)
    let after := (run [failure, pass, pass] w).sequence
    after.status.conditions.ofType "Scheduled" = [foreign .yes, foreign .no] ∧
      after.identityEntries.map (·.status) = [.unknown] := by
  intro foreign ready stored w failure pass after
  obtain ⟨huntouched, -, hseeded⟩ := frame_of_calls [failure, pass, pass] w
  have hfirst : ∀ call ∈ [failure], ¬ call.2.IsPass := by simp [failure, Call.IsPass]
  have hidentity := hseeded [failure] default none none [pass] rfl hfirst (by decide)
  refine ⟨(huntouched.conditions "Scheduled" (by decide)).trans (by decide), ?_⟩
  rw [show after.identityEntries = _ from hidentity]
  decide

end Work

end Readiness
