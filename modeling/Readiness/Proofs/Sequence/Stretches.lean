import Mathlib.Data.List.DropRight
import Mathlib.Data.List.Induction
import Readiness.Proofs.Sequence.Entries

/-!
# Stretches of silence

A child without a `Ready` condition has an entry that stands in for it, and the entry has a time. The time is that of
the propagation with which the silence of that child, at that place, began (`Timed`): a child that goes on being silent
keeps its entry, and one that moves, leaves, speaks up or changes its identity does not.
-/
namespace Readiness

open Calendar

namespace SequenceStatus

/-- When children were propagated, and what they said. -/
abbrev Propagation := DateTime × List (Reference × Option Condition)

/-- The propagations of one sort of children in a run. -/
def propagations (k : ChildKind) (steps : List Step) : List Propagation :=
  steps.filterMap fun st => (st.2.children? k).map fun children => (st.1, children)

/-- The propagations at the end, as far back as child `i` has been this one and had no `Ready` condition. -/
def stretch (i : Nat) (child : Reference) (ps : List Propagation) : List Propagation :=
  ps.rtakeWhile fun p => p.2[i]? = some (child, none)

/-- No child says of itself what is said of those without a `Ready` condition. -/
def Candid (ps : List Propagation) : Prop :=
  ∀ p ∈ ps, ∀ child ∈ p.2, ∀ c ∈ child.2, c.reason ≠ "NoReady"

instance (ps : List Propagation) : Decidable (Candid ps) :=
  inferInstanceAs (Decidable (∀ p ∈ ps, ∀ child ∈ p.2, ∀ c ∈ child.2, c.reason ≠ "NoReady"))

/-- Where a child is silent, the entry is from when that began; where it is not, the entry does not stand in for it. -/
structure Timed (k : ChildKind) (ps : List Propagation) (es : List StageStatus) : Prop where
  begun : ∀ i child first, (stretch i child ps).head? = some first → es[i]? = some ⟨child, absentReady first.1 k⟩
  ended : ∀ i child, stretch i child ps = [] → ∀ e, es[i]? = some e → ¬ StandsFor k child e

variable {k : ChildKind} {ps : List Propagation} {es : List StageStatus} {i : Nat} {child : Reference}

section
variable {p : Propagation}

theorem stretch_concat_of_silent (h : p.2[i]? = some (child, none)) :
    stretch i child (ps ++ [p]) = stretch i child ps ++ [p] :=
  List.rtakeWhile_concat_pos _ _ _ (by simpa using h)

theorem stretch_concat_of_not_silent (h : p.2[i]? ≠ some (child, none)) : stretch i child (ps ++ [p]) = [] :=
  List.rtakeWhile_concat_neg _ _ _ (by simpa using h)

end

theorem propagations_concat (k : ChildKind) (steps : List Step) (st : Step) : propagations k (steps ++ [st]) =
    match st.2.children? k with
    | some children => propagations k steps ++ [(st.1, children)]
    | none => propagations k steps := by
  unfold propagations
  rw [List.filterMap_append]
  cases h : st.2.children? k <;> simp [h]

/-- Whom an entry stands in for can be read off it. -/
theorem StandsFor.unique {child' : Reference} {e : StageStatus} (h : StandsFor k child e)
    (h' : StandsFor k child' e) : child = child' := by
  obtain ⟨_, rfl⟩ := h
  obtain ⟨_, he⟩ := h'
  exact congrArg StageStatus.child he

theorem not_standsFor_observe {now : DateTime} {previous : Option StageStatus} {seen : Reference × Option Condition}
    (hcandid : ∀ c ∈ seen.2, c.reason ≠ "NoReady") (hne : seen ≠ (child, none)) :
    ¬ StandsFor k child (observe now k previous seen.1 seen.2) := by
  intro hstands
  obtain ⟨child', ready?⟩ := seen
  cases ready? with
  | some c =>
    obtain ⟨_, he⟩ := hstands
    exact hcandid c rfl (congrArg (fun e => e.ready.reason) he)
  | none => exact hne (by rw [(standsFor_observe now k previous child').unique hstands])

theorem timed_nil : Timed k [] [] :=
  ⟨by simp [stretch], by simp⟩

theorem timed_observeAll (h : Timed k ps es) (now : DateTime) (children : List (Reference × Option Condition))
    (hcandid : ∀ child ∈ children, ∀ c ∈ child.2, c.reason ≠ "NoReady") :
    Timed k (ps ++ [(now, children)]) (observeAll now k es children) := by
  constructor
  case begun =>
    intro i child first hfirst
    by_cases hsilent : children[i]? = some (child, none)
    · rw [stretch_concat_of_silent hsilent, List.head?_append] at hfirst
      rw [getElem?_observeAll, hsilent]
      cases hold : (stretch i child ps).head? with
      | some first' =>
        -- the child was silent before
        obtain rfl : first' = first := by simpa [hold] using hfirst
        simp [h.begun i child first' hold, observe_of_standsFor _ _ _ (standsFor_absentReady first'.1 k child)]
      | none =>
        obtain rfl : (now, children) = first := by simpa [hold] using hfirst
        have hended := h.ended i child (List.head?_eq_none_iff.1 hold)
        simp [observe_of_not_standsFor now k es[i]? child hended]
    · simp [stretch_concat_of_not_silent (p := (now, children)) hsilent] at hfirst
  case ended =>
    intro i child hnil e he
    by_cases hsilent : children[i]? = some (child, none)
    · simp [stretch_concat_of_silent (p := (now, children)) hsilent] at hnil
    · rw [getElem?_observeAll] at he
      obtain ⟨seen, hseen, rfl⟩ := Option.map_eq_some_iff.1 he
      refine not_standsFor_observe (hcandid seen (List.mem_of_getElem? hseen)) ?_
      rintro rfl
      exact hsilent hseen

theorem timed_reached (steps : List Step) (hcandid : Candid (propagations k steps)) :
    Timed k (propagations k steps) ((reached steps).entries k) := by
  induction steps using List.reverseRecOn with
  | nil => cases k <;> exact timed_nil
  | append_singleton steps st ih =>
    have hreached : reached (steps ++ [st]) = st.2.apply st.1 (reached steps) := by simp [run]
    rw [hreached, entries_apply]
    rw [propagations_concat] at hcandid ⊢
    cases hchildren : st.2.children? k with
    | none => exact ih (by simpa [hchildren] using hcandid)
    | some children =>
      rw [hchildren] at hcandid
      exact timed_observeAll (ih fun p hp => hcandid p (List.mem_append_left _ hp)) st.1 children
        (hcandid _ List.mem_concat_self)

/-- **Since when a child has been silent.** After any run from an empty status, in which no child says of itself what is
said of those without a `Ready` condition, every child that had none in the last propagation has an entry standing in
for it, of the time of the first propagation in the unbroken stretch in which that child, at that place, had none. What
is done after the last propagation makes no difference, as nothing but a propagation of that sort of children touches
their entries. -/
theorem stamp_of_stretch (k : ChildKind) (steps : List Step) (hcandid : Candid (propagations k steps)) :
    (∀ now children, (propagations k steps).getLast? = some (now, children) →
      ∀ i child, children[i]? = some (child, none) →
        ∃ first e, (stretch i child (propagations k steps)).head? = some first ∧
          ((reached steps).entries k)[i]? = some e ∧ StandsFor k child e ∧
          e.ready.transition = some first.1.truncated) ∧
    (∀ now (op : Operation) s, op.children? k = none → (op.apply now s).entries k = s.entries k) := by
  refine ⟨fun now children hlast i child hi => ?_, fun now op s hnone => by rw [entries_apply, hnone]⟩
  obtain ⟨earlier, hsteps⟩ := List.getLast?_eq_some_iff.1 hlast
  obtain ⟨first, hfirst⟩ : ∃ first, (stretch i child (propagations k steps)).head? = some first := by
    rw [hsteps, stretch_concat_of_silent hi, List.head?_append]
    cases (stretch i child earlier).head? <;> simp
  exact ⟨first, _, hfirst, (timed_reached steps hcandid).begun i child first hfirst,
    standsFor_absentReady first.1 k child, rfl⟩

/-- A channel is silent, speaks up, and is silent again over two propagations with a mark between them: what counts is
when it fell silent again. -/
theorem stamp_of_stretch_after_relapse :
    let clock (second : Fin 60) : DateTime := ⟨.epoch, ⟨0, 0, second, 0⟩, some .utc⟩
    let ready : Condition := { type := ⟨"Ready", by decide⟩, status := .yes }
    let silent : Channel := {}
    let speaking : Channel := { status := { health := { conditions := [ready] } } }
    let steps : List Step := [(clock 0, .propagateChannels [silent]), (clock 1, .propagateChannels [speaking]),
      (clock 2, .propagateChannels [silent]), (clock 3, .markUnknown .channels "" ""),
      (clock 4, .propagateChannels [silent])]
    Candid (propagations .channel steps) ∧
      ∃ e, (reached steps).channels[0]? = some e ∧ e.ready.transition = some (clock 2) := by
  intro clock ready silent speaking steps
  have hcandid : Candid (propagations .channel steps) := by decide
  obtain ⟨first, e, hfirst, he, -, htime⟩ :=
    (stamp_of_stretch .channel steps hcandid).1 (clock 4) [silent.seen] rfl 0 silent.identity.reference rfl
  obtain rfl : (clock 2, [silent.seen]) = first := Option.some_inj.1 hfirst
  exact ⟨hcandid, e, he, htime⟩

end SequenceStatus

end Readiness
