import Readiness.Proofs.Condition.Runs

/-!
# When a condition last changed

A condition is stamped when its content changes, and keeps its time as long as the content stays. For a single write
that is how it is defined. An operation writes up to two types one after the other, or seeds all that are missing, and
what has to be seen is that no type is written twice, since then the first write would be news to the second one.
-/
namespace Readiness

open Calendar

/-- Since when a condition shows its content, after `old` was there: since then if that had the same one, and otherwise
from now on. -/
def Condition.since (now : DateTime) (c : Condition) : Option Condition → Option DateTime
  | none => some now.truncated
  | some old => if c.sameContent old then old.transition else some now.truncated

theorem Condition.since_recorded (now : DateTime) (c : Condition) (old : Option Condition) :
    (c.recorded now old).transition = (c.recorded now old).since now old := by
  cases old with
  | none => rfl
  | some d =>
    by_cases h : c.sameContent d = true
    · rw [recorded, if_pos h, since, if_pos d.sameContent_self]
    · rw [recorded, if_neg h, since, sameContent_stamped, if_neg h]

namespace Conditions

variable {now : DateTime} {before mid : Conditions}

/-- Every condition of the second list shows the time since which it is as it is, after the first list. -/
def Dated (now : DateTime) (before after : Conditions) : Prop :=
  ∀ c ∈ after, c.transition = c.since now (before.get? c.type.val)

namespace Dated

theorem refl (h : before.Distinct) : Dated now before before := by
  intro c hc
  rw [get?_of_mem h hc, Condition.since, if_pos c.sameContent_self]

theorem sublist {after : Conditions} (h : Dated now before mid) (hs : after.Sublist mid) : Dated now before after :=
  fun c hc => h c (hs.subset hc)

/-- Recording what has not been recorded since `before`. -/
theorem set {c : Condition} (h : Dated now before mid) (hsame : mid.get? c.type.val = before.get? c.type.val) :
    Dated now before (mid.set now c) := by
  unfold Conditions.set
  split
  · exact h
  · rename_i hnone
    intro d hd
    rcases List.mem_append.1 ((perm_sort _).mem_iff.1 hd) with hd | hd
    · exact h d (List.mem_filter.1 hd).1
    · rw [List.mem_singleton.1 hd]
      show some now.truncated = _
      rw [← hsame]
      cases hold : mid.get? c.type.val with
      | none => rfl
      | some e =>
        -- the entry that was there has another content, or nothing would have been recorded
        have hnew : ¬ c.sameContent e = true := by
          intro he
          refine hnone (List.any_eq_true.2 ⟨e, mem_of_get? hold, ?_⟩)
          simp [(Condition.sameContent_iff.1 he).1, he]
        rw [Condition.since, Condition.sameContent_stamped, if_neg hnew]

end Dated

end Conditions

namespace Declaration

open Conditions

variable {s : Declaration} {now : DateTime} {before mid : Conditions} {status : Status} {reason message : Text}

theorem dated_write {type : String} (h : Dated now before mid) (hsame : mid.get? type = before.get? type) :
    Dated now before (s.write now type status reason message mid).conditions := by
  by_cases ht : IsTypeName type
  · rw [write_eq ⟨type, ht⟩]
    exact h.set hsame
  · obtain ⟨r, hr⟩ := write_of_not_name ht s now status reason message mid
    rw [hr]
    exact h

/-- Marks write their own type first, and then at most the happy one. -/
theorem dated_mark {type : String} {next : Conditions → Outcome} (hd : before.Distinct) (ht : type ≠ s.happy)
    (hnext : ∀ mid, Dated now before mid → mid.get? s.happy = before.get? s.happy →
      Dated now before (next mid).conditions) :
    Dated now before ((s.write now type status reason message before).andThen next).conditions := by
  have hhappy : (s.write now type status reason message before).conditions.get? s.happy = before.get? s.happy :=
    (written_write type).get?_eq (by simpa using Ne.symm ht)
  exact andThen_keeps (P := Dated now before) (dated_write (.refl hd) rfl) fun h => hnext _ h hhappy

theorem dated_markTrueWith {type : String} (hd : before.Distinct) (ht : type ≠ s.happy) :
    Dated now before (s.markTrueWith now type reason message before).conditions := by
  refine dated_mark hd ht fun mid h hhappy => ?_
  unfold raiseHappy
  split
  · exact dated_write h hhappy
  · exact h

theorem dated_markFalse {type : String} (hd : before.Distinct) (ht : type ≠ s.happy) :
    Dated now before (s.markFalse now type reason message before).conditions := by
  refine dated_mark hd ht fun mid h hhappy => ?_
  split
  · exact dated_write h hhappy
  · exact h

theorem dated_markUnknown {type : String} (hd : before.Distinct) (ht : type ≠ s.happy) :
    Dated now before (s.markUnknown now type reason message before).conditions := by
  refine dated_mark hd ht fun mid h hhappy => ?_
  split
  · split
    · exact h
    · -- marking the happy condition false writes it once
      unfold markFalse
      refine andThen_keeps (P := Dated now before) (dated_write h hhappy) fun h' => ?_
      rw [if_neg (by simp)]
      exact h'
  · split
    · exact dated_write h hhappy
    · exact h

theorem dated_clear (hd : before.Distinct) (type : String) : Dated now before (s.clear type before).conditions := by
  unfold clear
  split
  · exact .refl hd
  · exact (Dated.refl hd).sublist List.filter_sublist

/-- A seed is for what is missing, and then it was missing all along. -/
theorem dated_seedMissing (hd : before.Distinct) : Dated now before (s.seedMissing now before).conditions := by
  have hseed : ∀ status, ∀ type ∈ s.types, ∀ mid, Dated now before mid ∧ Written s.types before mid →
      Dated now before (s.seed now status type mid).conditions ∧
        Written s.types before (s.seed now status type mid).conditions := by
    intro status type ht mid h
    refine ⟨?_, h.2.trans ((written_seed type).mono (by simpa using ht))⟩
    unfold seed
    split
    · exact h.1
    · rename_i hmissing
      have hnone : mid.get? type = none := not_has_iff.1 hmissing
      exact dated_write h.1 (hnone.trans (h.2.get?_eq_none hnone).symm)
  exact (seedMissing_keeps (P := fun mid => Dated now before mid ∧ Written s.types before mid) hseed
    ⟨.refl hd, .refl⟩).1

/-- The type that an operation marks. -/
def Operation.marked? : Operation → Option String
  | .markTrue type | .markTrueWith type _ _ | .markUnknown type _ _ | .markFalse type _ _ => some type
  | .set _ | .clear _ | .seedMissing => none

theorem dated_apply (op : Operation) (hop : op.marked? ≠ some s.happy) (hd : before.Distinct) :
    Dated now before (op.apply s now before).conditions := by
  have hne : ∀ type, op.marked? = some type → type ≠ s.happy := fun type h e => hop (by rw [h, e])
  cases op with
  | markTrue type => exact dated_markTrueWith hd (hne type rfl)
  | markTrueWith type reason message => exact dated_markTrueWith hd (hne type rfl)
  | markUnknown type reason message => exact dated_markUnknown hd (hne type rfl)
  | markFalse type reason message => exact dated_markFalse hd (hne type rfl)
  | set c => exact (Dated.refl hd).set rfl
  | clear type => exact dated_clear hd type
  | seedMissing => exact dated_seedMissing hd

end Declaration

end Readiness
