import Readiness.Proofs.Condition.Transitions
import Readiness.Proofs.Sequence.Outcome

/-!
# When the conditions of a sequence last changed

A pass seeds what is missing and then marks every aspect that it looks at once. So an aspect is news to a pass only if
it ends with another content than it had before the pass, or was not there. The happy condition is another matter: it
is written for every trouble, and a pass can be news to itself.
-/
namespace Readiness

open Calendar ConditionSet Conditions Declaration

namespace Finding

variable {now : DateTime} {cs : Conditions}

theorem since_marks (hd : cs.Distinct) (fs : List Finding) (hnd : (fs.map aspect).Nodup) (a : Aspect) {c : Condition}
    (hc : (marks now fs cs).get? a.type = some c) : c.transition = c.since now (cs.get? a.type) := by
  by_cases ha : ∃ f ∈ fs, f.aspect = a
  · obtain ⟨f, hf, rfl⟩ := ha
    rw [get?_marks_of_mem now hd fs hnd f hf] at hc
    obtain rfl := Option.some.inj hc
    exact Condition.since_recorded now f.entry _
  · have hnot : ∀ f ∈ fs, f.aspect ≠ a := fun f hf e => ha ⟨f, hf, e⟩
    rw [get?_marks_of_notMem now fs hnot] at hc
    rw [hc, Condition.since, if_pos c.sameContent_self]

end Finding

namespace SequenceStatus

open Finding

/-- What was seeded a moment ago counts as missing. -/
theorem since_seeded (now : DateTime) (steps : List Step) (a : Aspect) (c : Condition) :
    c.since now (((reached steps).seeded now).get? a.type) = c.since now ((reached steps).conditions.get? a.type) := by
  have hd := (regular_reached steps).backed.distinct
  obtain ⟨_, hkeep, -⟩ := seedMissing_spec wellNamed_sequenceConditions now (reached steps).conditions
  by_cases hnone : (reached steps).conditions.get? a.type = none
  · rw [hnone]
    cases hseed : ((reached steps).seeded now).get? a.type with
    | none => rfl
    | some e =>
      have hdated : e.transition = e.since now ((reached steps).conditions.get? e.type.val) :=
        dated_seedMissing hd e (mem_of_get? hseed)
      rw [type_of_get? hseed, hnone] at hdated
      unfold Condition.since
      dsimp only
      split
      · exact hdated
      · rfl
  · rw [seeded, hkeep _ hnone]

/-- **When conditions change.** In a list without repeated types, every condition that is there after an operation, the
happy one included, has the time that it had before if it was there with the same content, and otherwise that of the
operation. Over a whole pass, after any run, the same goes for every aspect of a sequence. -/
theorem transitions_of_change (s : Declaration) (op : Declaration.Operation) (now : DateTime) (cs : Conditions)
    (steps : List Step) (host : Work) (channels : Option (List Channel))
    (subscriptions : Option (List Subscription)) :
    (cs.Distinct → op.marked? ≠ some s.happy → Dated now cs (op.apply s now cs).conditions) ∧
    ∀ a : Aspect, ∃ c, ((reached steps).pass host now channels subscriptions).conditions.get? a.type = some c ∧
      c.transition = c.since now ((reached steps).conditions.get? a.type) := by
  refine ⟨fun hd hop => dated_apply op hop hd, fun a => ?_⟩
  have hseeded := regular_seeded now steps
  rw [marks_of_pass]
  have hpresent : (marks now (ofPass (channels.getD []) (subscriptions.getD []))
      ((reached steps).seeded now)).get? a.type ≠ none :=
    get?_marks_ne_none now _ (get?_seeded_ne_none now steps _ (List.mem_cons_of_mem _ a.type_mem))
  obtain ⟨c, hc⟩ := Option.ne_none_iff_exists'.1 hpresent
  refine ⟨c, hc, ?_⟩
  rw [since_marks hseeded.backed.distinct _ (nodup_ofPass _ _) a hc, since_seeded]

/-- With the last dependent the happy condition recovers. Both are of now, and the other one stays as it was. -/
theorem transitions_of_change_at_recovery :
    let clock (second : Fin 60) : DateTime := ⟨.epoch, ⟨0, 0, second, 0⟩, some .utc⟩
    let s := living ["Disk", "Network"]
    let disk : Condition := { type := ⟨"Disk", by decide⟩, status := .yes, transition := some (clock 5) }
    let ready : Condition := { type := ⟨"Ready", by decide⟩, status := .unknown, transition := some (clock 5) }
    let cs : Conditions := [disk, ready]
    let op : Declaration.Operation := .markTrue "Network"
    let after := (op.apply s (clock 9) cs).conditions
    cs.Distinct ∧ op.marked? ≠ some s.happy ∧ Dated (clock 9) cs after ∧
      after.map (fun c => (c.type.val, c.transition)) =
        [("Disk", some (clock 5)), ("Network", some (clock 9)), ("Ready", some (clock 9))] := by
  intro clock s disk ready cs op after
  have hd : cs.Distinct := by decide
  have hop : op.marked? ≠ some s.happy := by decide
  exact ⟨hd, hop, (transitions_of_change s op (clock 9) cs [] { sequence := {} } none none).1 hd hop, by decide⟩

end SequenceStatus

end Readiness
