import Readiness.Proofs.Condition.Happy

/-!
# What is not tracked

Conditions of other types are marked with the same operations. Marking one of them true looks whether the happy
condition can be raised, and marking one of them unknown, if some dependent fails, makes the happy condition false for
a reason that has nothing to do with it.

Neither comes to anything. At every point of a run (`Steady`), the happy condition is true if all dependents are, and
then it is exactly what raising would make it; and it is false if one of them fails. So the conditions that are tracked
do not depend on what is done with the others (`tracked_run_filter`).
-/
namespace Readiness

open Calendar Conditions

namespace Declaration

/-- Operations on a tracked type. Seeding is one. -/
def Operation.isTracked (s : Declaration) (op : Operation) : Bool := op.target?.all s.isTerminal

/-- The conditions that are tracked, as they are stored. -/
def tracked (s : Declaration) (cs : Conditions) : Conditions := cs.filter fun c => s.isTerminal c.type.val

/-- The tracked types look the same. -/
def Alike (s : Declaration) (cs ds : Conditions) : Prop := ∀ t ∈ s.types, cs.get? t = ds.get? t

variable {s : Declaration} {cs ds : Conditions}

theorem get?_tracked (t : String) : (s.tracked cs).get? t = if s.isTerminal t then cs.get? t else none := by
  rw [get?, tracked, List.find?_filter]
  split
  · rename_i ht
    rw [get?]
    congr 1
    funext c
    by_cases hc : c.type.val = t
    · simp [hc, ht]
    · simp [hc]
  · rename_i ht
    rw [List.find?_eq_none]
    intro c _
    by_cases hc : c.type.val = t
    · simp [hc, ht]
    · simp [hc]

theorem Alike.tracked_eq (h : s.Alike cs ds) (hc : cs.Sorted) (hd : ds.Sorted) : s.tracked cs = s.tracked ds := by
  refine eq_of_get? (hc.filter _) (hd.filter _) fun t => ?_
  rw [get?_tracked, get?_tracked]
  split
  · rename_i ht
    exact h t (isTerminal_iff.1 ht)
  · rfl

theorem Alike.statusOf? (h : s.Alike cs ds) {t : String} (ht : t ∈ s.types) : cs.statusOf? t = ds.statusOf? t :=
  statusOf?_eq_of_get?_eq (h t ht)

/-- What becomes of the happy condition may rest on the states of the dependents. -/
theorem alike_of_dependents (hdep : ∀ d ∈ s.dependents, cs.get? d = ds.get? d)
    (hhappy : (∀ d ∈ s.dependents, cs.statusOf? d = ds.statusOf? d) → cs.get? s.happy = ds.get? s.happy) :
    s.Alike cs ds := by
  intro t ht
  rcases List.mem_cons.1 ht with rfl | ht
  · exact hhappy fun d hd => statusOf?_eq_of_get?_eq (hdep d hd)
  · exact hdep t ht

end Declaration

namespace ConditionSet

open Declaration

variable {s : ConditionSet} {now : DateTime} {cs ds : Conditions} {reason message : Text}

/-! ## Two lists that look the same -/

/-- A mark cannot tell them apart where it writes what it is called with. -/
theorem alike_of_mark {type : ConditionType} {c : Condition} {cs' ds' : Conditions} (h : s.Alike cs ds)
    (hc : Written [type.val, s.happy] cs cs') (hd : Written [type.val, s.happy] ds ds')
    (hcself : cs'.get? type.val = some (c.recorded now (cs.get? type.val)))
    (hdself : ds'.get? type.val = some (c.recorded now (ds.get? type.val)))
    (hhappy : (∀ d ∈ s.dependents, cs'.statusOf? d = ds'.statusOf? d) → cs'.get? s.happy = ds'.get? s.happy) :
    s.Alike cs' ds' := by
  refine alike_of_dependents (fun d hdep => ?_) hhappy
  have hold : cs.get? d = ds.get? d := h d (List.mem_cons_of_mem _ hdep)
  by_cases ht : d = type.val
  · rw [ht] at hold ⊢
    rw [hcself, hdself, hold]
  · have hnot : d ∉ [type.val, s.happy] := by simp [ht, ne_happy hdep]
    rw [hc.get?_eq hnot, hd.get?_eq hnot, hold]

section
variable (hn : s.WellNamed) (h : s.Alike cs ds) (hc : cs.Distinct) (hd : ds.Distinct)
include hn h

theorem alike_seedMissing : s.Alike (s.seedMissing now cs).conditions (s.seedMissing now ds).conditions := by
  obtain ⟨-, hkeep, hhappy, hnew⟩ := seedMissing_spec hn now cs
  obtain ⟨-, hkeep', hhappy', hnew'⟩ := seedMissing_spec hn now ds
  have hstatus : s.seedStatus cs = s.seedStatus ds := by
    rw [seedStatus, seedStatus, holds, holds, h.statusOf? List.mem_cons_self]
  intro t ht
  have hold : cs.get? t = ds.get? t := h t ht
  by_cases hnone : cs.get? t = none
  · have hnone' : ds.get? t = none := hold.symm.trans hnone
    rcases List.mem_cons.1 ht with rfl | hdep
    · rw [hhappy hnone, hhappy' hnone']
    · have hname : IsTypeName t := hn.dependents t hdep
      rw [hnew ⟨t, hname⟩ hdep hnone, hnew' ⟨t, hname⟩ hdep hnone', hstatus]
  · rw [hkeep t hnone, hkeep' t (hold ▸ hnone), hold]

include hc hd

section
variable {type : ConditionType} (ht : type.val ≠ s.happy)
include ht

theorem alike_markTrueWith : s.Alike (s.markTrueWith now type.val reason message cs).conditions
    (s.markTrueWith now type.val reason message ds).conditions := by
  refine alike_of_mark h (written_markTrueWith _) (written_markTrueWith _) (get?_markTrueWith hc ht)
    (get?_markTrueWith hd ht) fun hstates => ?_
  rw [get?_happy_markTrueWith hc ht hn, get?_happy_markTrueWith hd ht hn, allHold_congr hstates,
    h s.happy List.mem_cons_self]

theorem alike_markUnknown : s.Alike (s.markUnknown now type.val reason message cs).conditions
    (s.markUnknown now type.val reason message ds).conditions := by
  refine alike_of_mark h (written_markUnknown _) (written_markUnknown _) (get?_markUnknown hc ht)
    (get?_markUnknown hd ht) fun hstates => ?_
  have hfails : cs.fails s.happy = ds.fails s.happy := by
    rw [fails, fails, h.statusOf? List.mem_cons_self]
  rw [get?_happy_markUnknown hc ht hn, get?_happy_markUnknown hd ht hn, anyFails_congr hstates, hfails,
    h s.happy List.mem_cons_self]

theorem alike_markFalse : s.Alike (s.markFalse now type.val reason message cs).conditions
    (s.markFalse now type.val reason message ds).conditions := by
  refine alike_of_mark h (written_markFalse _) (written_markFalse _) (get?_markFalse hc ht)
    (get?_markFalse hd ht) fun _ => ?_
  rw [get?_happy_markFalse hc ht hn, get?_happy_markFalse hd ht hn, h s.happy List.mem_cons_self]

end

theorem alike_apply (op : Operation) (hop : op.Spares s) :
    s.Alike (op.apply s now cs).conditions (op.apply s now ds).conditions := by
  obtain ⟨-, hsame⟩ | rfl | ⟨type, reason, message, -, ht, ⟨-, htrue⟩ | rfl | rfl⟩ := apply_cases hn op hop
  · intro t ht
    rw [hsame now cs t ht, hsame now ds t ht, h t ht]
  · exact alike_seedMissing hn h
  · rw [htrue, htrue]
    exact alike_markTrueWith hn h hc hd ht
  · exact alike_markUnknown hn h hc hd ht
  · exact alike_markFalse hn h hc hd ht

end

/-! ## Steady lists -/

/-- A happy condition that is true is what raising it again would make it. -/
structure Steady (hn : s.WellNamed) (cs : Conditions) : Prop where
  backed : s.Backed cs
  raised : ∀ c, cs.get? s.happy = some c → c.status = .yes → (s.happyEntry hn .yes "" "").sameContent c = true

theorem steady_nil (hn : s.WellNamed) (hne : s.dependents ≠ []) : Steady hn [] := ⟨backed_nil hne, by simp [get?]⟩

/-- What a step writes to the happy condition, if anything. Only raising makes it true, and that gives no reason. -/
theorem get?_happy_apply (hn : s.WellNamed) (hd : cs.Distinct) (op : Operation) (hop : op.Spares s) :
    (op.apply s now cs).conditions.get? s.happy = cs.get? s.happy ∨
    ∃ (status : Status) (reason message : Text), (status = .yes → reason = "" ∧ message = "") ∧
      (op.apply s now cs).conditions.get? s.happy =
        some ((s.happyEntry hn status reason message).recorded now (cs.get? s.happy)) := by
  obtain ⟨-, hsame⟩ | rfl | ⟨type, reason, message, -, ht, ⟨-, htrue⟩ | rfl | rfl⟩ := apply_cases hn op hop
  · exact .inl (hsame now cs s.happy List.mem_cons_self)
  · obtain ⟨-, hkeep, hhappy, -⟩ := seedMissing_spec hn now cs
    by_cases hnone : cs.get? s.happy = none
    · refine .inr ⟨.unknown, "", "", by simp, ?_⟩
      rw [hnone]
      exact hhappy hnone
    · exact .inl (hkeep s.happy hnone)
  · rw [htrue, get?_happy_markTrueWith hd ht hn]
    split
    · exact .inr ⟨.yes, "", "", fun _ => ⟨rfl, rfl⟩, rfl⟩
    · exact .inl rfl
  · simp only [Operation.apply]
    rw [get?_happy_markUnknown hd ht hn]
    split
    · split
      · exact .inl rfl
      · exact .inr ⟨.no, reason, message, by simp, rfl⟩
    · split
      · exact .inr ⟨.unknown, reason, message, by simp, rfl⟩
      · exact .inl rfl
  · simp only [Operation.apply]
    rw [get?_happy_markFalse hd ht hn]
    split
    · exact .inr ⟨.no, reason, message, by simp, rfl⟩
    · exact .inl rfl

theorem steady_apply (hn : s.WellNamed) (op : Operation) (hop : op.Spares s) (h : Steady hn cs) :
    Steady hn (op.apply s now cs).conditions := by
  refine ⟨backed_apply hn op hop h.backed, fun c hc hyes => ?_⟩
  obtain hkept | ⟨status, reason, message, hplain, hnew⟩ :=
    get?_happy_apply hn h.backed.distinct op hop
  · exact h.raised c (hkept.symm.trans hc) hyes
  · obtain rfl := Option.some.inj (hnew.symm.trans hc)
    rw [Condition.recorded_status] at hyes
    obtain ⟨rfl, rfl⟩ := hplain hyes
    obtain rfl : status = .yes := hyes
    exact Condition.recorded_sameContent now _ _

/-! ## Operations on other types -/

section
variable {type : ConditionType} (hnot : type.val ∉ s.types)
include hnot

theorem ne_happy_of_notMem : type.val ≠ s.happy := fun e => hnot (e ▸ List.mem_cons_self)

theorem notMem_dependents : type.val ∉ s.dependents := fun h => hnot (List.mem_cons_of_mem _ h)

theorem alike_of_other (hw : Written [type.val, s.happy] cs ds)
    (hhappy : (∀ d ∈ s.dependents, ds.statusOf? d = cs.statusOf? d) → ds.get? s.happy = cs.get? s.happy) :
    s.Alike ds cs := by
  refine alike_of_dependents (fun d hd => ?_) hhappy
  have hne : d ≠ type.val := fun e => notMem_dependents hnot (e ▸ hd)
  exact hw.get?_eq (by simp [hne, ne_happy hd])

variable {hn : s.WellNamed} (h : Steady hn cs)
include h

/-- With all dependents true there is nothing left to raise. -/
theorem Steady.alike_markTrueWith : s.Alike (s.markTrueWith now type.val reason message cs).conditions cs := by
  refine alike_of_other hnot (written_markTrueWith _) fun hstates => ?_
  rw [get?_happy_markTrueWith h.backed.distinct (ne_happy_of_notMem hnot) hn, allHold_congr hstates]
  split
  · rename_i hall
    have hyes : cs.statusOf? s.happy = some .yes := h.backed.true_iff.2 (allHold_iff.1 hall)
    obtain ⟨c, hc, hstatus⟩ := Option.map_eq_some_iff.1 hyes
    rw [hc, Condition.recorded, if_pos (h.raised c hc hstatus)]
  · rfl

/-- With a dependent that fails there is nothing left to repair. -/
theorem Steady.alike_markUnknown : s.Alike (s.markUnknown now type.val reason message cs).conditions cs := by
  refine alike_of_other hnot (written_markUnknown _) fun hstates => ?_
  rw [get?_happy_markUnknown h.backed.distinct (ne_happy_of_notMem hnot) hn, anyFails_congr hstates]
  split
  · rename_i hfails
    obtain ⟨d, hd, hno⟩ := anyFails_iff.1 hfails
    rw [if_pos (fails_iff.2 (h.backed.false_of d hd hno))]
  · rw [if_neg (notMem_dependents hnot)]

theorem Steady.alike_markFalse : s.Alike (s.markFalse now type.val reason message cs).conditions cs := by
  refine alike_of_other hnot (written_markFalse _) fun _ => ?_
  rw [get?_happy_markFalse h.backed.distinct (ne_happy_of_notMem hnot) hn, if_neg (notMem_dependents hnot)]

end

theorem Steady.alike_apply {hn : s.WellNamed} (h : Steady hn cs) (op : Operation) (hop : op.Spares s)
    (hother : ¬ op.isTracked s = true) : s.Alike (op.apply s now cs).conditions cs := by
  obtain ⟨-, hsame⟩ | rfl | ⟨type, reason, message, htarget, -, hmark⟩ := apply_cases hn op hop
  · exact hsame now cs
  · exact absurd rfl hother
  · have hnot : type.val ∉ s.types := by
      rwa [Operation.isTracked, htarget, Option.all_some, isTerminal_iff] at hother
    obtain ⟨-, htrue⟩ | rfl | rfl := hmark
    · rw [htrue]
      exact h.alike_markTrueWith hnot
    · exact h.alike_markUnknown hnot
    · exact h.alike_markFalse hnot

/-! ## Runs -/

/-- Lists that look the same still do after a run, and after the run without the steps on other types. -/
theorem alike_run {hn : s.WellNamed} (steps : List Step) (hs : ∀ st ∈ steps, st.2.Spares s) (h : Steady hn cs)
    (hd : ds.Distinct) (hsame : s.Alike cs ds) :
    s.Alike (s.run steps cs) (s.run (steps.filter fun st => st.2.isTracked s) ds) := by
  induction steps generalizing cs ds with
  | nil => exact hsame
  | cons st steps ih =>
    have hop : st.2.Spares s := hs st (by simp)
    have hs' : ∀ st' ∈ steps, st'.2.Spares s := fun st' h' => hs st' (List.mem_cons_of_mem _ h')
    have hnext : Steady hn (st.2.apply s st.1 cs).conditions := steady_apply hn st.2 hop h
    by_cases htracked : st.2.isTracked s = true
    · rw [List.filter_cons, if_pos htracked]
      exact ih hs' hnext (distinct_apply s st.1 st.2 hd) (alike_apply hn hsame h.backed.distinct hd st.2 hop)
    · -- only the first run takes this step, and it is the steady one
      rw [List.filter_cons, if_neg htracked]
      refine ih hs' hnext hd fun t ht => ?_
      rw [h.alike_apply st.2 hop htracked t ht, hsame t ht]

/-- **What is tracked does not depend on the rest.** Leaving out every step that is about a type that is not tracked
leaves the tracked conditions of a run as they are, in all they say and down to the time of their last change. There
have to be dependents: without any, marking whatever type true makes the happy condition true. -/
theorem tracked_run_filter (hn : s.WellNamed) (hne : s.dependents ≠ []) (steps : List Step)
    (hs : ∀ st ∈ steps, st.2.Spares s) :
    s.tracked (s.run steps []) = s.tracked (s.run (steps.filter fun st => st.2.isTracked s) []) := by
  have halike : s.Alike (s.run steps []) (s.run (steps.filter fun st => st.2.isTracked s) []) :=
    alike_run steps hs (steady_nil hn hne) distinct_nil fun _ _ => rfl
  exact halike.tracked_eq (sorted_run steps sorted_nil) (sorted_run _ sorted_nil)

theorem tracked_run_filter_of_fan :
    let s := living ["Disk", "Network"]
    let steps : List Step := [(default, .markFalse "Disk" "Full" "no space left"),
      (default, .markUnknown "Fan" "Silent" ""), (default, .markTrue "Disk"), (default, .markTrue "Network"),
      (default, .markTrueWith "Fan" "Spinning" ""), (default, .clear "Fan")]
    (∀ st ∈ steps, st.2.Spares s) ∧
    s.tracked (s.run steps []) = s.tracked (s.run (steps.filter fun st => st.2.isTracked s) []) := by
  intro s steps
  have hs : ∀ st ∈ steps, st.2.Spares s := by decide
  exact ⟨hs, tracked_run_filter ⟨by decide, by decide⟩ (by decide) steps hs⟩

end ConditionSet

end Readiness
