import Mathlib.Data.List.Induction
import Readiness.Proofs.Condition.Happy

/-!
# Recovering from a failure

The happy condition turns false with the first dependent that fails, but when that dependent recovers it need not come
back with it. Marking a dependent true can only raise the happy condition, and that takes every dependent to be true.
Until then, or until some dependent is marked down again, the happy condition stays false with nothing left that fails.

What it shows is therefore a matter of history: it is false exactly when some dependent is not true, and one has failed
since a dependent was last marked down (`fails_happy_iff`).
-/
namespace Readiness.ConditionSet

open Calendar Conditions Declaration

variable {s : ConditionSet} {now : DateTime} {cs : Conditions}

/-! ## What a step does to a failure -/

section
variable (hn : s.WellNamed) (hd : cs.Distinct) (op : Operation) (hop : op.Spares s)
include hn hd hop

/-- What is true stays true until it is marked down. -/
theorem statusOf?_apply_of_yes (hlow : ¬ op.Lowers s) {d : String} (hdep : d ∈ s.dependents)
    (hyes : cs.statusOf? d = some .yes) : (op.apply s now cs).conditions.statusOf? d = some .yes := by
  obtain ⟨-, hsame⟩ | rfl | ⟨type, reason, message, -, ht, ⟨-, htrue⟩ | rfl | rfl⟩ := apply_cases hn op hop
  · rw [statusOf?_eq_of_get?_eq (hsame now cs d (List.mem_cons_of_mem _ hdep)), hyes]
  · show (s.seedMissing now cs).conditions.statusOf? d = _
    rw [statusOf?_seedMissing hn now cs hdep, hyes]
    rfl
  · rw [htrue, statusOf?_markTrueWith now reason message hd ht hdep, hyes, ite_self]
  · have hne : d ≠ type.val := fun e => hlow (e ▸ hdep)
    exact (statusOf?_markUnknown now reason message hd ht hdep).trans ((if_neg hne).trans hyes)
  · have hne : d ≠ type.val := fun e => hlow (e ▸ hdep)
    exact (statusOf?_markFalse now reason message hd ht hdep).trans ((if_neg hne).trans hyes)

theorem allHold_apply (hlow : ¬ op.Lowers s) (hall : s.allHold cs = true) :
    s.allHold (op.apply s now cs).conditions = true :=
  allHold_iff.2 fun d hdep => statusOf?_apply_of_yes hn hd op hop hlow hdep (allHold_iff.1 hall d hdep)

/-- A happy condition that is false stays so until a dependent is marked down or all of them are true. -/
theorem statusOf?_happy_apply_of_no (hlow : ¬ op.Lowers s) (hno : cs.statusOf? s.happy = some .no) :
    (op.apply s now cs).conditions.statusOf? s.happy = some .no ∨
      s.allHold (op.apply s now cs).conditions = true := by
  obtain ⟨-, hsame⟩ | rfl | ⟨type, reason, message, -, ht, ⟨-, htrue⟩ | rfl | rfl⟩ := apply_cases hn op hop
  · exact .inl ((statusOf?_eq_of_get?_eq (hsame now cs s.happy List.mem_cons_self)).trans hno)
  · left
    show (s.seedMissing now cs).conditions.statusOf? s.happy = _
    rw [statusOf?_happy_seedMissing hn now cs, hno]
    rfl
  · rw [htrue, statusOf?_happy_markTrueWith now reason message hd ht hn]
    split
    · rename_i hall
      exact .inr hall
    · exact .inl hno
  · left
    have hdep : type.val ∉ s.dependents := hlow
    refine (statusOf?_happy_markUnknown now reason message hd ht hn).trans ?_
    rw [if_neg hdep, hno, ite_self]
  · left
    have hdep : type.val ∉ s.dependents := hlow
    exact (statusOf?_happy_markFalse now reason message hd ht hn).trans ((if_neg hdep).trans hno)

/-- A happy condition that is false has either just been told of a failure, or was false before. -/
theorem anyFails_or_of_happy_no (hno : (op.apply s now cs).conditions.statusOf? s.happy = some .no) :
    s.anyFails (op.apply s now cs).conditions = true ∨ ¬ op.Lowers s ∧ cs.statusOf? s.happy = some .no := by
  obtain ⟨hlow, hsame⟩ | rfl | ⟨type, reason, message, -, ht, ⟨hlow, htrue⟩ | rfl | rfl⟩ := apply_cases hn op hop
  · exact .inr ⟨hlow, (statusOf?_eq_of_get?_eq (hsame now cs s.happy List.mem_cons_self)).symm.trans hno⟩
  · refine .inr ⟨id, ?_⟩
    have hseed := (statusOf?_happy_seedMissing hn now cs).symm.trans hno
    cases h : cs.statusOf? s.happy <;> simp_all
  · rw [htrue, statusOf?_happy_markTrueWith now reason message hd ht hn] at hno
    split at hno
    · simp at hno
    · exact .inr ⟨hlow, hno⟩
  · have hhappy := (statusOf?_happy_markUnknown now reason message hd ht hn).symm.trans hno
    split at hhappy
    · rename_i hfails
      exact .inl hfails
    · split at hhappy
      · simp at hhappy
      · rename_i hlow
        exact .inr ⟨hlow, hhappy⟩
  · by_cases hdep : type.val ∈ s.dependents
    · refine .inl (anyFails_iff.2 ⟨type.val, hdep, ?_⟩)
      exact (statusOf?_markFalse now reason message hd ht hdep).trans (if_pos rfl)
    · have hhappy := (statusOf?_happy_markFalse now reason message hd ht hn).symm.trans hno
      exact .inr ⟨hdep, (if_neg hdep).symm.trans hhappy⟩

end

/-! ## Runs -/

/-- While no dependent is marked down, a happy condition that is false waits for all of them. -/
theorem happy_no_or_allHold_of_run (hn : s.WellNamed) (steps : List Step) (hs : ∀ st ∈ steps, st.2.Spares s)
    (hlow : ∀ st ∈ steps, ¬ st.2.Lowers s) (hb : s.Backed cs)
    (h : cs.statusOf? s.happy = some .no ∨ s.allHold cs = true) :
    (s.run steps cs).statusOf? s.happy = some .no ∨ s.allHold (s.run steps cs) = true := by
  induction steps generalizing cs with
  | nil => exact h
  | cons st steps ih =>
    have hop := hs st (by simp)
    have hop' := hlow st (by simp)
    refine ih (fun st' h' => hs st' (List.mem_cons_of_mem _ h')) (fun st' h' => hlow st' (List.mem_cons_of_mem _ h'))
      (backed_apply hn st.2 hop hb) ?_
    rcases h with hno | hall
    · exact statusOf?_happy_apply_of_no hn hb.distinct st.2 hop hop' hno
    · exact .inr (allHold_apply hn hb.distinct st.2 hop hop' hall)

/-- Behind a happy condition that is false there is a failure, now or before, and nothing was marked down since. -/
theorem exists_failure_of_run (hn : s.WellNamed) (hne : s.dependents ≠ []) (steps : List Step)
    (hs : ∀ st ∈ steps, st.2.Spares s) (hno : (s.run steps []).statusOf? s.happy = some .no) :
    ∃ before after, steps = before ++ after ∧ s.anyFails (s.run before []) = true ∧
      ∀ st ∈ after, ¬ st.2.Lowers s := by
  induction steps using List.reverseRecOn with
  | nil => simp [run, statusOf?, get?] at hno
  | append_singleton steps st ih =>
    have hs' : ∀ st' ∈ steps, st'.2.Spares s := fun st' h' => hs st' (List.mem_append_left _ h')
    have hd := (backed_run hn steps hs' (backed_nil hne)).distinct
    rw [run_append] at hno
    obtain hfails | ⟨hlow, hold⟩ := anyFails_or_of_happy_no hn hd st.2 (hs st (by simp)) hno
    · exact ⟨steps ++ [st], [], by simp, by rwa [run_append], by simp⟩
    · obtain ⟨before, after, rfl, hfails, hafter⟩ := ih hs' hold
      refine ⟨before, after ++ [st], by simp, hfails, fun st' h' => ?_⟩
      rcases List.mem_append.1 h' with h' | h'
      · exact hafter st' h'
      · rwa [List.mem_singleton.1 h']

/-- **When the happy condition is false.** At the end of a run it is false exactly if some dependent is missing or not
true, and some dependent was false, at the end or at an earlier point after which no dependent was marked unknown or
false. -/
theorem fails_happy_iff (hn : s.WellNamed) (hne : s.dependents ≠ []) (steps : List Step)
    (hs : ∀ st ∈ steps, st.2.Spares s) :
    (s.run steps []).fails s.happy = true ↔
      (∃ d ∈ s.dependents, (s.run steps []).holds d = false) ∧
      ∃ before after, steps = before ++ after ∧ (∃ d ∈ s.dependents, (s.run before []).fails d = true) ∧
        ∀ st ∈ after, ¬ st.2.Lowers s := by
  have hb := backed_run hn steps hs (backed_nil hne)
  have hopen : (∃ d ∈ s.dependents, (s.run steps []).holds d = false) ↔ ¬ s.allHold (s.run steps []) = true := by
    simp [allHold]
  have hfailing : ∀ cs, (∃ d ∈ s.dependents, cs.fails d = true) ↔ s.anyFails cs = true := by simp [anyFails]
  rw [hopen, fails_iff]
  simp only [hfailing]
  constructor
  · intro hno
    refine ⟨fun hall => ?_, exists_failure_of_run hn hne steps hs hno⟩
    have hyes := hb.true_iff.2 (allHold_iff.1 hall)
    simp [hno] at hyes
  · rintro ⟨hall, before, after, rfl, hfails, hlow⟩
    have hs₁ : ∀ st ∈ before, st.2.Spares s := fun st h => hs st (List.mem_append_left _ h)
    have hs₂ : ∀ st ∈ after, st.2.Spares s := fun st h => hs st (List.mem_append_right _ h)
    have hb₁ := backed_run hn before hs₁ (backed_nil hne)
    obtain ⟨d, hdep, hno⟩ := anyFails_iff.1 hfails
    rw [run_append] at hall ⊢
    exact (happy_no_or_allHold_of_run hn after hs₂ hlow hb₁ (.inl (hb₁.false_of d hdep hno))).resolve_right hall

theorem fails_happy_iff_of_recovery :
    let s := living ["Disk", "Network", "Power"]
    let steps : List Step := [(default, .seedMissing), (default, .markFalse "Disk" "Full" "no space left"),
      (default, .markTrue "Network"), (default, .markTrueWith "Disk" "Grown" ""),
      (default, .markFalse "Fan" "Stuck" "")]
    (∀ st ∈ steps, st.2.Spares s) ∧
    ((s.run steps []).fails s.happy = true ↔
      (∃ d ∈ s.dependents, (s.run steps []).holds d = false) ∧
      ∃ before after, steps = before ++ after ∧ (∃ d ∈ s.dependents, (s.run before []).fails d = true) ∧
        ∀ st ∈ after, ¬ st.2.Lowers s) := by
  intro s steps
  have hs : ∀ st ∈ steps, st.2.Spares s := by decide
  exact ⟨hs, fails_happy_iff ⟨by decide, by decide⟩ (by decide) steps hs⟩

/-- A dependent that fails and recovers while another one is missing leaves the happy condition false, with no dependent
that is. -/
theorem happy_fails_without_failure :
    let s := living ["Disk", "Network"]
    let steps : List Step := [(default, .markFalse "Disk" "Full" "no space left"), (default, .markTrue "Disk")]
    (∀ st ∈ steps, st.2.Spares s) ∧ (s.run steps []).fails s.happy = true ∧
      ∀ d ∈ s.dependents, (s.run steps []).fails d = false := by
  decide

end Readiness.ConditionSet
