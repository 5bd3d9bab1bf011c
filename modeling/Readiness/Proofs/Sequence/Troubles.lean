import Mathlib.Data.List.Induction
import Readiness.Proofs.Sequence.Outcome

/-!
# The happy condition from mark to mark

What the marks of some findings leave in the happy condition depends on the trouble among them. Under a failed identity
they leave it as it is; otherwise each trouble writes it, with its own reason and message, and the last one shows.
Findings without trouble only ever raise it.
-/
namespace Readiness

open Calendar ConditionSet Conditions Declaration SequenceStatus

namespace Finding

variable (now : DateTime) {cs : Conditions}

/-- What is wrong, in the order in which it is marked. -/
def troubles (fs : List Finding) : List (Text × Text) := fs.filterMap trouble

theorem troubles_eq_nil {fs : List Finding} : troubles fs = [] ↔ ∀ f ∈ fs, f.trouble = none :=
  List.filterMap_eq_nil_iff

theorem exists_of_troubles {fs : List Finding} (h : troubles fs ≠ []) : ∃ f ∈ fs, f.trouble ≠ none := by
  obtain ⟨t, ht⟩ := List.exists_mem_of_ne_nil _ h
  obtain ⟨f, hf, hft⟩ := List.mem_filterMap.1 ht
  exact ⟨f, hf, by simp [hft]⟩

/-- The happy condition that a trouble leads to, as long as nothing fails. -/
def unsettled (t : Text × Text) : Condition :=
  sequenceConditions.happyEntry wellNamed_sequenceConditions .unknown t.1 t.2

def raised : Condition := sequenceConditions.happyEntry wellNamed_sequenceConditions .yes "" ""

/-! ## The happy condition from mark to mark -/

theorem anyFails_iff_identity (h : Regular cs) :
    sequenceConditions.anyFails cs = true ↔ cs.statusOf? Aspect.identity.type = some .no := by
  rw [anyFails_iff]
  refine ⟨?_, fun hno => ⟨_, Aspect.identity.type_mem, hno⟩⟩
  rintro ⟨d, hd, hno⟩
  obtain ⟨a, rfl⟩ := Aspect.exists_of_mem hd
  rwa [← h.only a hno]

theorem identity_mark {f : Finding} (hid : f.aspect ≠ .identity) :
    (f.mark now cs).statusOf? Aspect.identity.type = cs.statusOf? Aspect.identity.type :=
  statusOf?_eq_of_get?_eq ((written_mark now f).get?_eq (by simp [Ne.symm hid, Aspect.type_ne_happy]))

theorem get?_happy_mark_of_none (hd : cs.Distinct) {f : Finding} (hf : f.trouble = none) :
    (f.mark now cs).get? sequenceConditions.happy =
      if sequenceConditions.allHold (f.mark now cs) then
        some (raised.recorded now (cs.get? sequenceConditions.happy))
      else cs.get? sequenceConditions.happy := by
  rw [mark_of_none hf]
  exact get?_happy_markTrueWith hd f.aspect.type_ne_happy wellNamed_sequenceConditions

theorem get?_happy_mark_of_some (h : Regular cs) {f : Finding} {t : Text × Text} (hf : f.trouble = some t)
    (hid : f.aspect ≠ .identity) :
    (f.mark now cs).get? sequenceConditions.happy =
      if cs.statusOf? Aspect.identity.type = some .no then cs.get? sequenceConditions.happy
      else some ((unsettled t).recorded now (cs.get? sequenceConditions.happy)) := by
  have hfails := anyFails_iff_identity (regular_mark now f h)
  rw [identity_mark now hid] at hfails
  rw [mark_of_some hf] at hfails ⊢
  rw [get?_happy_markUnknown h.backed.distinct f.aspect.type_ne_happy wellNamed_sequenceConditions]
  by_cases hno : cs.statusOf? Aspect.identity.type = some .no
  · have hhappy := fails_iff.2 (h.backed.false_of _ Aspect.identity.type_mem hno)
    rw [if_pos (hfails.2 hno), if_pos hno, if_pos hhappy]
  · have hmem : f.aspect.name.val ∈ sequenceConditions.dependents := f.aspect.type_mem
    rw [if_neg (fun hany => hno (hfails.1 hany)), if_neg hno, if_pos hmem]
    rfl

/-- Writing the happy condition for one trouble after another. -/
def unsettleAll (now : DateTime) (ts : List (Text × Text)) (old : Option Condition) : Option Condition :=
  ts.foldl (fun old t => some ((unsettled t).recorded now old)) old

theorem exists_unsettleAll (now : DateTime) {ts : List (Text × Text)} (hts : ts ≠ []) (old : Option Condition) :
    ∃ t ∈ ts, ∃ before, unsettleAll now ts old = some ((unsettled t).recorded now before) := by
  induction ts generalizing old with
  | nil => exact absurd rfl hts
  | cons t ts ih =>
    by_cases h : ts = []
    · rw [h]
      exact ⟨t, by simp, old, rfl⟩
    · obtain ⟨u, hu, before, hlast⟩ := ih h (some ((unsettled t).recorded now old))
      exact ⟨u, List.mem_cons_of_mem _ hu, before, hlast⟩

theorem troubles_cons_of_none {f : Finding} {fs : List Finding} (h : f.trouble = none) :
    troubles (f :: fs) = troubles fs :=
  List.filterMap_cons_none h

theorem troubles_cons_of_some {f : Finding} {fs : List Finding} {t : Text × Text} (h : f.trouble = some t) :
    troubles (f :: fs) = t :: troubles fs :=
  List.filterMap_cons_some h

/-- Marks that find no trouble undo nothing. -/
theorem allHold_mark_of_none (hd : cs.Distinct) {f : Finding} (hf : f.trouble = none)
    (hall : sequenceConditions.allHold cs = true) : sequenceConditions.allHold (f.mark now cs) = true := by
  refine allHold_iff.2 fun d hdep => ?_
  rw [mark_of_none hf, statusOf?_markTrueWith now "" "" hd f.aspect.name_ne_happy hdep, allHold_iff.1 hall d hdep,
    ite_self]

theorem marks_append_singleton (fs : List Finding) (f : Finding) :
    marks now (fs ++ [f]) cs = f.mark now (marks now fs cs) := by
  rw [marks, marks, List.foldl_append]
  rfl

/-- If everything is true after the last mark, then that mark has raised the happy condition. -/
theorem raised_of_marks (hd : cs.Distinct) (fs : List Finding) {f : Finding}
    (hall : sequenceConditions.allHold (marks now (fs ++ [f]) cs) = true) :
    ∃ c, (marks now (fs ++ [f]) cs).get? sequenceConditions.happy = some c ∧ raised.sameContent c = true := by
  have hd' : (marks now fs cs).Distinct := (written_marks now fs).distinct hd
  rw [marks_append_singleton] at hall ⊢
  have hself : some f.status = some .yes :=
    (told_mark now hd' f).statusOf?.symm.trans (allHold_iff.1 hall _ f.aspect.type_mem)
  have hf : f.trouble = none := by
    cases ht : f.trouble with
    | none => rfl
    | some t => simp [status, ht] at hself
  exact ⟨_, (get?_happy_mark_of_none now hd' hf).trans (if_pos hall), Condition.recorded_sameContent _ _ _⟩

/-- Without any trouble, the happy condition is true if every dependent ends up true, and otherwise as it was. -/
theorem statusOf?_happy_marks_of_none (hd : cs.Distinct) (fs : List Finding) (hne : fs ≠ [])
    (hf : ∀ f ∈ fs, f.trouble = none) :
    (marks now fs cs).statusOf? sequenceConditions.happy =
      if sequenceConditions.allHold (marks now fs cs) then some .yes
      else cs.statusOf? sequenceConditions.happy := by
  induction fs using List.reverseRecOn with
  | nil => exact absurd rfl hne
  | append_singleton fs f ih =>
    have hd' : (marks now fs cs).Distinct := (written_marks now fs).distinct hd
    have hlast : f.trouble = none := hf f (by simp)
    rw [marks_append_singleton, statusOf?, get?_happy_mark_of_none now hd' hlast]
    split
    · simp [raised, happyEntry, Declaration.entry]
    · rename_i hall
      show (marks now fs cs).statusOf? _ = _
      by_cases hfs : fs = []
      · rw [hfs]
        rfl
      · have hall' : ¬ sequenceConditions.allHold (marks now fs cs) = true :=
          fun h => hall (allHold_mark_of_none now hd' hlast h)
        rw [ih hfs fun g hg => hf g (List.mem_append_left _ hg), if_neg hall']

section
variable (h : Regular cs) (fs : List Finding) (hid : ∀ f ∈ fs, f.aspect ≠ .identity)
include h hid

/-- Under a failed identity the happy condition stays as it is. -/
theorem get?_happy_marks_of_failing (hno : cs.statusOf? Aspect.identity.type = some .no) :
    (marks now fs cs).get? sequenceConditions.happy = cs.get? sequenceConditions.happy := by
  induction fs generalizing cs with
  | nil => rfl
  | cons f fs ih =>
    have hid' := hid f (by simp)
    have hstep := ih (regular_mark now f h) (fun g hg => hid g (List.mem_cons_of_mem _ hg))
      ((identity_mark now hid').trans hno)
    refine hstep.trans ?_
    cases hf : f.trouble with
    | none =>
      have hall : ¬ sequenceConditions.allHold (f.mark now cs) = true :=
        not_allHold Aspect.identity.type_mem (by simp [identity_mark now hid', hno])
      rw [get?_happy_mark_of_none now h.backed.distinct hf, if_neg hall]
    | some t => rw [get?_happy_mark_of_some now h hf hid', if_pos hno]

variable (hno : cs.statusOf? Aspect.identity.type ≠ some .no)
include hno

/-- As long as some aspect is not true, only trouble shows in the happy condition. -/
theorem get?_happy_marks (b : Aspect) (hb : cs.statusOf? b.type ≠ some .yes)
    (hopen : ∀ f ∈ fs, f.aspect = b → f.trouble ≠ none) :
    (marks now fs cs).get? sequenceConditions.happy =
      unsettleAll now (troubles fs) (cs.get? sequenceConditions.happy) := by
  induction fs generalizing cs with
  | nil => rfl
  | cons f fs ih =>
    have hid' := hid f (by simp)
    have hb' : (f.mark now cs).statusOf? b.type ≠ some .yes := by
      by_cases hfb : f.aspect = b
      · obtain ⟨t, ht⟩ := Option.ne_none_iff_exists'.1 (hopen f (by simp) hfb)
        rw [← hfb, (told_mark now h.backed.distinct f).statusOf?, status, ht]
        simp
      · rwa [statusOf?_eq_of_get?_eq ((written_mark now f).get?_eq (by simp [Ne.symm hfb, b.type_ne_happy]))]
    refine (ih (regular_mark now f h) (fun g hg => hid g (List.mem_cons_of_mem _ hg))
      (by rwa [identity_mark now hid']) hb' fun g hg => hopen g (List.mem_cons_of_mem _ hg)).trans ?_
    cases hf : f.trouble with
    | none =>
      have hall : ¬ sequenceConditions.allHold (f.mark now cs) = true := not_allHold b.type_mem hb'
      rw [get?_happy_mark_of_none now h.backed.distinct hf, if_neg hall, troubles_cons_of_none hf]
    | some t =>
      rw [get?_happy_mark_of_some now h hf hid', if_neg hno, troubles_cons_of_some hf]
      rfl

/-- Up to the first trouble the happy condition may be raised. From there on it tells of trouble only. -/
theorem exists_get?_happy_marks (hnd : (fs.map aspect).Nodup) (ht : troubles fs ≠ []) :
    ∃ old, (marks now fs cs).get? sequenceConditions.happy = unsettleAll now (troubles fs) old := by
  induction fs generalizing cs with
  | nil => exact absurd rfl ht
  | cons f fs ih =>
    have hid' := hid f (by simp)
    have hid'' := fun g hg => hid g (List.mem_cons_of_mem f hg)
    have hno' : (f.mark now cs).statusOf? Aspect.identity.type ≠ some .no := by rwa [identity_mark now hid']
    obtain ⟨hf', hnd'⟩ := List.nodup_cons.1 hnd
    cases hf : f.trouble with
    | none =>
      rw [troubles_cons_of_none hf] at ht ⊢
      exact ih (regular_mark now f h) hid'' hno' hnd' ht
    | some t =>
      have hunknown : (f.mark now cs).statusOf? f.aspect.type ≠ some .yes := by
        rw [(told_mark now h.backed.distinct f).statusOf?, status, hf]
        simp
      have hopen : ∀ g ∈ fs, g.aspect = f.aspect → g.trouble ≠ none :=
        fun g hg e => absurd (e ▸ List.mem_map_of_mem hg) hf'
      refine ⟨cs.get? sequenceConditions.happy,
        (get?_happy_marks now (regular_mark now f h) fs hid'' hno' f.aspect hunknown hopen).trans ?_⟩
      rw [get?_happy_mark_of_some now h hf hid', if_neg hno, troubles_cons_of_some hf]
      rfl

end

end Finding

end Readiness
