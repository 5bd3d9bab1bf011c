import Readiness.Proofs.Condition.Runs

/-!
# The happy condition along a run

Nothing computes the happy condition from scratch: each operation adjusts what the one before has left. That it is
true exactly when every dependent is, and false whenever one is, is therefore an invariant of runs (`Backed`), and its
two halves need each other. Raising relies on the first half (a happy condition that is true already has all its
dependents), `markUnknown` on the second.

The converse of the second half is no invariant: a happy condition can stay false after the last failure is gone. It
tells the verdict again (`Settled`) after the next mark that is not true.
-/
namespace Readiness.ConditionSet

open Calendar Conditions Declaration

variable {s : ConditionSet} {now : DateTime} {cs ds : Conditions} {reason message : Text}

/-! ## What a step can do -/

/-- Operations that spare the happy condition leave what is tracked alone, seed, or mark a type. -/
theorem apply_cases (hn : s.WellNamed) (op : Operation) (hop : op.Spares s) :
    (¬ op.Lowers s ∧ ∀ now cs, ∀ t ∈ s.types, (op.apply s now cs).conditions.get? t = cs.get? t) ∨
    op = .seedMissing ∨
    ∃ (type : ConditionType) (reason message : Text), op.target? = some type.val ∧ type.val ≠ s.happy ∧
      ((¬ op.Lowers s ∧ ∀ now cs, op.apply s now cs = s.markTrueWith now type.val reason message cs) ∨
        op = .markUnknown type.val reason message ∨ op = .markFalse type.val reason message) := by
  -- marks of what is no name are refused, and no dependent is marked
  have hrefused : ∀ {type : String}, ¬ IsTypeName type → type ∉ s.dependents :=
    fun ht hdep => ht (hn.dependents _ hdep)
  cases op with
  | markTrue type =>
    by_cases ht : IsTypeName type
    · exact .inr (.inr ⟨⟨type, ht⟩, "", "", rfl, hop, .inl ⟨id, fun _ _ => rfl⟩⟩)
    · exact .inl ⟨id, fun _ _ t _ => congrArg (get? · t) (andThen_of_not_name ht _)⟩
  | markTrueWith type reason message =>
    by_cases ht : IsTypeName type
    · exact .inr (.inr ⟨⟨type, ht⟩, reason, message, rfl, hop, .inl ⟨id, fun _ _ => rfl⟩⟩)
    · exact .inl ⟨id, fun _ _ t _ => congrArg (get? · t) (andThen_of_not_name ht _)⟩
  | markUnknown type reason message =>
    by_cases ht : IsTypeName type
    · exact .inr (.inr ⟨⟨type, ht⟩, reason, message, rfl, hop, .inr (.inl rfl)⟩)
    · exact .inl ⟨hrefused ht, fun _ _ t _ => congrArg (get? · t) (andThen_of_not_name ht _)⟩
  | markFalse type reason message =>
    by_cases ht : IsTypeName type
    · exact .inr (.inr ⟨⟨type, ht⟩, reason, message, rfl, hop, .inr (.inr rfl)⟩)
    · exact .inl ⟨hrefused ht, fun _ _ t _ => congrArg (get? · t) (andThen_of_not_name ht _)⟩
  | set c =>
    refine .inl ⟨id, fun _ _ t ht => get?_set_of_ne ?_⟩
    rintro rfl
    exact hop ht
  | clear type => exact .inl ⟨id, fun _ _ t ht => get?_clear type ht⟩
  | seedMissing => exact .inr (.inl rfl)

/-! ## States after a mark -/

/-- A mark shows in the type that it is called with, and among the dependents nowhere else. -/
theorem statusOf?_of_mark {type : String} {status : Status} (hw : Written [type, s.happy] cs ds) (c : Condition)
    (old : Option Condition) (hc : c.status = status) (hself : ds.get? type = some (c.recorded now old)) {d : String}
    (hdep : d ∈ s.dependents) : ds.statusOf? d = if d = type then some status else cs.statusOf? d := by
  by_cases h : d = type
  · rw [if_pos h, h, statusOf?, hself]
    simp [hc]
  · rw [if_neg h]
    exact statusOf?_eq_of_get?_eq (hw.get?_eq (by simp [h, ne_happy hdep]))

section
variable (now reason message) {type : ConditionType} (hd : cs.Distinct) (ht : type.val ≠ s.happy)
include hd ht

theorem statusOf?_markTrueWith {d : String} (hdep : d ∈ s.dependents) :
    (s.markTrueWith now type.val reason message cs).conditions.statusOf? d =
      if d = type.val then some .yes else cs.statusOf? d :=
  statusOf?_of_mark (written_markTrueWith _) _ _ rfl (get?_markTrueWith hd ht) hdep

theorem statusOf?_markFalse {d : String} (hdep : d ∈ s.dependents) :
    (s.markFalse now type.val reason message cs).conditions.statusOf? d =
      if d = type.val then some .no else cs.statusOf? d :=
  statusOf?_of_mark (written_markFalse _) _ _ rfl (get?_markFalse hd ht) hdep

theorem statusOf?_markUnknown {d : String} (hdep : d ∈ s.dependents) :
    (s.markUnknown now type.val reason message cs).conditions.statusOf? d =
      if d = type.val then some .unknown else cs.statusOf? d :=
  statusOf?_of_mark (written_markUnknown _) _ _ rfl (get?_markUnknown hd ht) hdep

variable (hn : s.WellNamed)
include hn

theorem statusOf?_happy_markTrueWith :
    (s.markTrueWith now type.val reason message cs).conditions.statusOf? s.happy =
      if s.allHold (s.markTrueWith now type.val reason message cs).conditions then some .yes
      else cs.statusOf? s.happy := by
  rw [statusOf?, get?_happy_markTrueWith hd ht hn]
  split
  · simp [happyEntry, entry]
  · rfl

theorem statusOf?_happy_markFalse :
    (s.markFalse now type.val reason message cs).conditions.statusOf? s.happy =
      if type.val ∈ s.dependents then some .no else cs.statusOf? s.happy := by
  rw [statusOf?, get?_happy_markFalse hd ht hn]
  split
  · simp [happyEntry, entry]
  · rfl

theorem statusOf?_happy_markUnknown :
    (s.markUnknown now type.val reason message cs).conditions.statusOf? s.happy =
      if s.anyFails (s.markUnknown now type.val reason message cs).conditions then some .no
      else if type.val ∈ s.dependents then some .unknown else cs.statusOf? s.happy := by
  rw [statusOf?, get?_happy_markUnknown hd ht hn]
  split
  · split
    · rename_i hf
      exact fails_iff.1 hf
    · simp [happyEntry, entry]
  · split
    · simp [happyEntry, entry]
    · rfl

end

/-! ## The invariant -/

/-- The happy condition is true exactly when every dependent is, and false when one of them is. -/
structure Backed (s : ConditionSet) (cs : Conditions) : Prop where
  distinct : cs.Distinct
  true_iff : cs.statusOf? s.happy = some .yes ↔ ∀ d ∈ s.dependents, cs.statusOf? d = some .yes
  false_of : ∀ d ∈ s.dependents, cs.statusOf? d = some .no → cs.statusOf? s.happy = some .no

theorem backed_nil (hne : s.dependents ≠ []) : s.Backed [] := by
  have hnone : ∀ t, statusOf? [] t = none := fun _ => rfl
  refine ⟨distinct_nil, iff_of_false (by simp [hnone]) fun h => ?_, fun d _ h => by simp [hnone] at h⟩
  obtain ⟨d, hd⟩ := List.exists_mem_of_ne_nil _ hne
  have := h d hd
  simp [hnone] at this

/-- Operations that leave the tracked states alone keep the invariant. -/
theorem Backed.congr (hb : s.Backed cs) (hd : ds.Distinct) (hs : ∀ t ∈ s.types, ds.statusOf? t = cs.statusOf? t) :
    s.Backed ds := by
  have hhappy := hs s.happy List.mem_cons_self
  have hdep : ∀ d ∈ s.dependents, ds.statusOf? d = cs.statusOf? d := fun d h => hs d (List.mem_cons_of_mem _ h)
  refine ⟨hd, ?_, ?_⟩
  · rw [hhappy, hb.true_iff]
    exact forall₂_congr fun d h => by rw [hdep d h]
  · intro d h hno
    rw [hdep d h] at hno
    rw [hhappy]
    exact hb.false_of d h hno

section
variable (type : ConditionType) (hn : s.WellNamed) (hb : s.Backed cs) (ht : type.val ≠ s.happy)
include hn hb ht

theorem Backed.markTrueWith : s.Backed (s.markTrueWith now type.val reason message cs).conditions := by
  have hdep := fun {d} => statusOf?_markTrueWith (s := s) now reason message hb.distinct ht (d := d)
  have hhappy := statusOf?_happy_markTrueWith now reason message hb.distinct ht hn
  refine ⟨(written_markTrueWith _).distinct hb.distinct, ?_, ?_⟩
  · rw [hhappy, ← allHold_iff]
    split
    · simp [*]
    · rename_i hall
      simp only [hall]
      refine iff_of_false (fun hyes => hall (allHold_iff.2 fun d hd => ?_)) Bool.false_ne_true
      rw [hdep hd]
      split
      · rfl
      · exact hb.true_iff.1 hyes d hd
  · intro d hd hno
    rw [hhappy, if_neg (not_allHold hd (by simp [hno]))]
    rw [hdep hd] at hno
    split at hno
    · simp at hno
    · exact hb.false_of d hd hno

theorem Backed.markFalse : s.Backed (s.markFalse now type.val reason message cs).conditions := by
  have hdep := fun {d} => statusOf?_markFalse (s := s) now reason message hb.distinct ht (d := d)
  have hhappy := statusOf?_happy_markFalse now reason message hb.distinct ht hn
  have hdist : (s.markFalse now type.val reason message cs).conditions.Distinct :=
    (written_markFalse _).distinct hb.distinct
  by_cases hmem : type.val ∈ s.dependents
  · rw [if_pos hmem] at hhappy
    refine ⟨hdist, iff_of_false (by simp [hhappy]) ?_, fun _ _ _ => hhappy⟩
    intro hall
    have := hall _ hmem
    rw [hdep hmem] at this
    simp at this
  · rw [if_neg hmem] at hhappy
    refine hb.congr hdist fun t htype => ?_
    rcases List.mem_cons.1 htype with rfl | hd
    · exact hhappy
    · rw [hdep hd, if_neg fun e : t = type.val => hmem (e ▸ hd)]

theorem Backed.markUnknown : s.Backed (s.markUnknown now type.val reason message cs).conditions := by
  have hdep := fun {d} => statusOf?_markUnknown (s := s) now reason message hb.distinct ht (d := d)
  have hhappy := statusOf?_happy_markUnknown now reason message hb.distinct ht hn
  have hdist : (s.markUnknown now type.val reason message cs).conditions.Distinct :=
    (written_markUnknown _).distinct hb.distinct
  by_cases hfails : s.anyFails (s.markUnknown now type.val reason message cs).conditions = true
  · rw [if_pos hfails] at hhappy
    obtain ⟨d, hd, hno⟩ := anyFails_iff.1 hfails
    refine ⟨hdist, iff_of_false (by simp [hhappy]) fun hall => ?_, fun _ _ _ => hhappy⟩
    have := hall d hd
    simp [hno] at this
  · rw [if_neg hfails] at hhappy
    by_cases hmem : type.val ∈ s.dependents
    · rw [if_pos hmem] at hhappy
      refine ⟨hdist, iff_of_false (by simp [hhappy]) fun hall => ?_, fun d hd hno => ?_⟩
      · have := hall _ hmem
        rw [hdep hmem] at this
        simp at this
      · exact absurd (anyFails_iff.2 ⟨d, hd, hno⟩) hfails
    · rw [if_neg hmem] at hhappy
      refine hb.congr hdist fun t htype => ?_
      rcases List.mem_cons.1 htype with rfl | hd
      · exact hhappy
      · rw [hdep hd, if_neg fun e : t = type.val => hmem (e ▸ hd)]

end

section
variable (hn : s.WellNamed)
include hn

theorem statusOf?_happy_seedMissing (now : DateTime) (cs : Conditions) :
    (s.seedMissing now cs).conditions.statusOf? s.happy = some ((cs.statusOf? s.happy).getD .unknown) := by
  obtain ⟨_, hkeep, hhappy, _⟩ := seedMissing_spec hn now cs
  cases h : cs.get? s.happy with
  | none => simp [statusOf?, h, hhappy h, happyEntry, entry]
  | some c => simp [statusOf?, hkeep s.happy (by simp [h]), h]

theorem statusOf?_seedMissing (now : DateTime) (cs : Conditions) {d : String} (hdep : d ∈ s.dependents) :
    (s.seedMissing now cs).conditions.statusOf? d = some ((cs.statusOf? d).getD (s.seedStatus cs)) := by
  obtain ⟨_, hkeep, _, hnew⟩ := seedMissing_spec hn now cs
  cases h : cs.get? d with
  | none => simp [statusOf?, h, hnew ⟨d, hn.dependents d hdep⟩ hdep h, entry]
  | some c => simp [statusOf?, hkeep d (by simp [h]), h]

theorem Backed.seedMissing (hb : s.Backed cs) : s.Backed (s.seedMissing now cs).conditions := by
  have hhappy := statusOf?_happy_seedMissing hn now cs
  have hdep := fun {d} => statusOf?_seedMissing hn now cs (d := d)
  refine ⟨(seedMissing_spec hn now cs).1.distinct hb.distinct, ?_, ?_⟩
  · by_cases hyes : cs.statusOf? s.happy = some .yes
    · refine iff_of_true (by simp [hhappy, hyes]) fun d hd => ?_
      simp [hdep hd, hb.true_iff.1 hyes d hd]
    · have hseed : s.seedStatus cs = .unknown := by simp [seedStatus, holds, hyes]
      refine iff_of_false ?_ fun hall => hyes (hb.true_iff.2 fun d hd => ?_)
      · rw [hhappy]
        cases h : cs.statusOf? s.happy <;> simp_all
      · have := hall d hd
        rw [hdep hd, hseed] at this
        cases h : cs.statusOf? d <;> simp_all
  · intro d hd hno
    rw [hdep hd] at hno
    have hold : cs.statusOf? d = some .no := by
      cases h : cs.statusOf? d with
      | none =>
        rw [h] at hno
        unfold seedStatus at hno
        split at hno <;> simp at hno
      | some st => simpa [h] using hno
    simp [hhappy, hb.false_of d hd hold]

end

/-! ## Telling the verdict -/

/-- The happy condition tells the verdict of the dependents. -/
def Settled (s : ConditionSet) (cs : Conditions) : Prop := cs.statusOf? s.happy = some (s.verdict cs)

theorem verdict_eq_yes (h : s.allHold cs = true) : s.verdict cs = .yes := by
  have hno : ¬ s.anyFails cs = true := by
    intro hfails
    obtain ⟨d, hd, hfail⟩ := anyFails_iff.1 hfails
    exact not_allHold hd (by simp [hfail]) h
  rw [verdict, if_neg hno, if_pos h]

section
variable {type : ConditionType} (hn : s.WellNamed) (hd : cs.Distinct) (hdep : type.val ∈ s.dependents)
include hn hd hdep

/-- Whatever was there before: marking a dependent unknown settles. -/
theorem settled_markUnknown : s.Settled (s.markUnknown now type.val reason message cs).conditions := by
  have hhappy := statusOf?_happy_markUnknown now reason message hd (ne_happy hdep) hn
  have hself := statusOf?_markUnknown now reason message hd (ne_happy hdep) hdep
  rw [Settled, hhappy, verdict, if_pos hdep, if_neg (not_allHold hdep (by simp [hself]))]
  split <;> rfl

/-- Marking a dependent true keeps a settled list settled, unless that takes back a failure. -/
theorem settled_markTrueWith (hs : s.Settled cs) (hno : cs.statusOf? type.val ≠ some .no) :
    s.Settled (s.markTrueWith now type.val reason message cs).conditions := by
  have hhappy := statusOf?_happy_markTrueWith now reason message hd (ne_happy hdep) hn
  have hmark := fun {d} => statusOf?_markTrueWith (s := s) now reason message hd (ne_happy hdep) (d := d)
  by_cases hall : s.allHold (s.markTrueWith now type.val reason message cs).conditions = true
  · rw [Settled, hhappy, if_pos hall, verdict_eq_yes hall]
  · -- neither every dependent was true before, nor is it another one that fails now
    have hall' : ¬ s.allHold cs = true := by
      intro h
      refine hall (allHold_iff.2 fun d hd => ?_)
      rw [hmark hd]
      split
      · rfl
      · exact allHold_iff.1 h d hd
    have hfails : s.anyFails (s.markTrueWith now type.val reason message cs).conditions = s.anyFails cs := by
      rw [Bool.eq_iff_iff, anyFails_iff, anyFails_iff]
      refine exists_congr fun d => and_congr_right fun hd => ?_
      rw [hmark hd]
      split
      · rename_i e
        rw [e]
        exact iff_of_false (by simp) hno
      · rfl
    rw [Settled, hhappy, if_neg hall, hs, verdict, verdict, hfails, if_neg hall, if_neg hall']

end

/-! ## Runs -/

theorem backed_apply (hn : s.WellNamed) (op : Operation) (hop : op.Spares s) (hb : s.Backed cs) :
    s.Backed (op.apply s now cs).conditions := by
  obtain ⟨-, hsame⟩ | rfl | ⟨type, reason, message, -, ht, ⟨-, htrue⟩ | rfl | rfl⟩ := apply_cases hn op hop
  · exact hb.congr (distinct_apply s now op hb.distinct) fun t ht => statusOf?_eq_of_get?_eq (hsame now cs t ht)
  · exact hb.seedMissing hn
  · rw [htrue]
    exact hb.markTrueWith type hn ht
  · exact hb.markUnknown type hn ht
  · exact hb.markFalse type hn ht

theorem backed_run (hn : s.WellNamed) (steps : List Step) (hs : ∀ st ∈ steps, st.2.Spares s) (hb : s.Backed cs) :
    s.Backed (s.run steps cs) :=
  run_keeps steps (fun st hst _ hb => backed_apply hn st.2 (hs st hst) hb) hb

/-- **The happy condition along a run.** From an empty list, and as long as only dependents and untracked types are
written, the happy condition is true exactly when every dependent is there and true, and it is there and false
whenever a dependent is false. -/
theorem happy_of_run (hn : s.WellNamed) (hne : s.dependents ≠ []) (steps : List Step)
    (hs : ∀ st ∈ steps, st.2.Spares s) :
    ((s.run steps []).holds s.happy = true ↔ ∀ d ∈ s.dependents, (s.run steps []).holds d = true) ∧
    ((∃ d ∈ s.dependents, (s.run steps []).fails d = true) → (s.run steps []).fails s.happy = true) := by
  have hb := backed_run hn steps hs (backed_nil hne)
  refine ⟨?_, ?_⟩
  · rw [holds_iff, hb.true_iff]
    exact forall₂_congr fun d _ => holds_iff.symm
  · rintro ⟨d, hd, hfails⟩
    exact fails_iff.2 (hb.false_of d hd (fails_iff.1 hfails))

theorem happy_of_run_with_failure :
    let s := living ["Disk", "Network"]
    let steps : List Step := [(default, .seedMissing), (default, .markTrue "Disk"), (default, .markTrue "Network"),
      (default, .markFalse "Disk" "Full" "no space left"), (default, .markUnknown "Fan" "Silent" "")]
    (∀ st ∈ steps, st.2.Spares s) ∧
    ((s.run steps []).holds s.happy = true ↔ ∀ d ∈ s.dependents, (s.run steps []).holds d = true) ∧
    ((∃ d ∈ s.dependents, (s.run steps []).fails d = true) → (s.run steps []).fails s.happy = true) := by
  intro s steps
  have hs : ∀ st ∈ steps, st.2.Spares s := by decide
  exact ⟨hs, happy_of_run ⟨by decide, by decide⟩ (by decide) steps hs⟩

end Readiness.ConditionSet
