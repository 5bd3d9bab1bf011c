import Readiness.Proofs.Condition.Marks

/-!
# Repeated types

A stored list may hold several conditions of one type, and a look-up gives the first of them. Recording goes by all of
them: where any one has the content that is to be recorded, nothing changes. If that is not the first one, what was to
be recorded does not show afterwards.

This is the only way in which recording fails to take effect (`shows_of_set`).
-/
namespace Readiness

open Calendar

namespace Conditions

variable {now : DateTime} {c : Condition} {cs : Conditions}

/-- A look-up gives the content of `c`. -/
def Shows (cs : Conditions) (c : Condition) : Prop := ∃ d, cs.get? c.type.val = some d ∧ c.sameContent d = true

/-- The content of `c` is stored, but behind a condition of its type that has another one. -/
def Hides (cs : Conditions) (c : Condition) : Prop := (∃ d ∈ cs, c.sameContent d = true) ∧ ¬ cs.Shows c

theorem Shows.statusOf? (h : cs.Shows c) : cs.statusOf? c.type.val = some c.status := by
  obtain ⟨d, hget, hsame⟩ := h
  rw [Conditions.statusOf?, hget]
  exact congrArg some (Condition.sameContent_iff.1 hsame).2.1.symm

theorem set_of_hides (h : cs.Hides c) : cs.set now c = cs := by
  obtain ⟨⟨d, hd, hsame⟩, -⟩ := h
  exact set_eq_self hd hsame

theorem shows_set_of_new (h : ∀ d ∈ cs, ¬ c.sameContent d = true) : (cs.set now c).Shows c := by
  have hnone : ¬ (cs.ofType c.type.val).any c.sameContent = true := by
    simp only [List.any_eq_true, not_exists, not_and]
    exact fun d hd => h d (mem_ofType.1 hd).1
  refine ⟨{ c with transition := some now.truncated }, ?_, by simp [Condition.sameContent_iff]⟩
  rw [get?_eq_head?, ofType_set_self, if_neg hnone]
  rfl

theorem shows_set (h : ¬ cs.Hides c) : (cs.set now c).Shows c := by
  by_cases hstored : ∃ d ∈ cs, c.sameContent d = true
  · obtain ⟨d, hd, hsame⟩ := hstored
    have hshows : cs.Shows c := Classical.byContradiction fun hno => h ⟨⟨d, hd, hsame⟩, hno⟩
    rwa [set_eq_self hd hsame]
  · exact shows_set_of_new fun d hd hsame => hstored ⟨d, hd, hsame⟩

theorem shows_set_iff : (cs.set now c).Shows c ↔ ¬ cs.Hides c := by
  refine ⟨fun hshows h => h.2 ?_, shows_set⟩
  rwa [set_of_hides h] at hshows

/-- Nothing is hidden where types are not repeated. -/
theorem not_hides_of_distinct (h : cs.Distinct) (c : Condition) : ¬ cs.Hides c := by
  rintro ⟨⟨d, hd, hsame⟩, hno⟩
  have htype : c.type = d.type := (Condition.sameContent_iff.1 hsame).1
  exact hno ⟨d, by rw [htype, get?_of_mem h hd], hsame⟩

end Conditions

namespace Declaration

open Conditions

variable {s : Declaration} {now : DateTime} {cs : Conditions}

/-- A mark that does not show leaves what was there. -/
theorem holds_markTrue_iff (type : ConditionType) (ht : type.val ≠ s.happy) :
    (s.markTrue now type.val cs).conditions.holds type.val = true ↔
      (cs.Hides (s.entry type .yes "" "") → cs.holds type.val = true) := by
  have hw := (written_of_mark (s := s) now "" "" cs ht).1
  have hself : (s.markTrue now type.val cs).conditions.statusOf? type.val =
      (cs.set now (s.entry type .yes "" "")).statusOf? type.val :=
    statusOf?_eq_of_get?_eq (hw.get?_eq (by simpa using ht))
  rw [holds_iff, holds_iff, hself]
  by_cases h : cs.Hides (s.entry type .yes "" "")
  · rw [set_of_hides h]
    exact ⟨fun hyes _ => hyes, fun hyes => hyes h⟩
  · have hshows : (cs.set now (s.entry type .yes "" "")).Shows (s.entry type .yes "" "") := shows_set h
    exact ⟨fun _ hhides => absurd hhides h, fun _ => hshows.statusOf?⟩

/-- **Recording takes effect** if and only if the content is not hidden: afterwards a look-up of the type gives a
condition with the content that was recorded, and every other look-up gives what it gave before. So a mark makes its
type true unless a condition like it is hidden behind one that is not true. In lists without repeated types nothing is
hidden. -/
theorem shows_of_set (s : Declaration) (now : DateTime) (cs : Conditions) (c : Condition) :
    ((cs.set now c).Shows c ↔ ¬ cs.Hides c) ∧
    (∀ type, type ≠ c.type.val → (cs.set now c).get? type = cs.get? type) ∧
    (∀ type : ConditionType, type.val ≠ s.happy →
      ((s.markTrue now type.val cs).conditions.holds type.val = true ↔
        (cs.Hides (s.entry type .yes "" "") → cs.holds type.val = true))) ∧
    (cs.Distinct → ∀ d, ¬ cs.Hides d) :=
  ⟨shows_set_iff, fun _ => get?_set_of_ne, fun type ht => holds_markTrue_iff type ht, not_hides_of_distinct⟩

/-- Behind repeated types that are not true nothing true is hidden, and a mark shows. -/
theorem shows_of_set_among_repeated :
    let s : Declaration := ConditionSet.living ["Disk"]
    let disk (status : Status) : Condition := { type := ⟨"Disk", by decide⟩, status := status }
    let cs : Conditions := [disk .no, disk .unknown]
    "Disk" ≠ s.happy ∧ ¬ cs.Hides (s.entry ⟨"Disk", by decide⟩ .yes "" "") ∧
      (s.markTrue default "Disk" cs).conditions.holds "Disk" = true := by
  intro s disk cs
  have hne : "Disk" ≠ s.happy := by decide
  have hnot : ¬ cs.Hides (s.entry ⟨"Disk", by decide⟩ .yes "" "") := fun h => absurd h.1 (by decide)
  have hmark := (shows_of_set s default cs (disk .no)).2.2.1 ⟨"Disk", by decide⟩ hne
  exact ⟨hne, hnot, hmark.2 fun h => absurd h hnot⟩

/-- Of two conditions of one type, the content of the second is recorded and marked in vain. -/
theorem hidden_behind_first :
    let disk (status : Status) : Condition := { type := ⟨"Disk", by decide⟩, status := status }
    let good : Conditions := [disk .yes, disk .no]
    let bad : Conditions := [disk .no, disk .yes]
    (good.set default (disk .no)).get? "Disk" = some (disk .yes) ∧
    ((ConditionSet.living ["Disk"]).markTrue default "Disk" bad).conditions.get? "Disk" = some (disk .no) := by
  decide

end Declaration

end Readiness
