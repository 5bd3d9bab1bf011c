import Readiness.Proofs.Sequence.Runs

/-!
# Entries of children

A propagation rebuilds the entries of one sort of children: entry `i` from child `i` and from what was entry `i` before
(`getElem?_observeAll`). Of what was there before, only an entry that already stood for the same child is of any
account, and then it stays (`observe_of_standsFor`). Nothing else writes entries (`entries_apply`).
-/
namespace Readiness

open Calendar

namespace SequenceStatus

/-! ## One entry -/

theorem fits_ready : 1 ≤ "Ready".length ∧ "Ready".length ≤ 316 := by decide

/-- The entry is for a child without a `Ready` condition. It says so in fixed words, and only its time is its own. -/
def StandsFor (k : ChildKind) (child : Reference) (e : StageStatus) : Prop :=
  ∃ time : DateTime, e = {
    child := child
    ready := {
      type := ⟨"Ready", fits_ready⟩
      status := .unknown
      severity := .error
      transition := some time
      reason := "NoReady"
      message := k.withoutReady } }

section
variable (now : DateTime) (k : ChildKind) (previous : Option StageStatus) (child : Reference)

theorem standsFor_absentReady : StandsFor k child ⟨child, absentReady now k⟩ := ⟨now.truncated, rfl⟩

theorem observe_of_standsFor {e : StageStatus} (h : StandsFor k child e) : observe now k (some e) child none = e := by
  obtain ⟨time, rfl⟩ := h
  exact if_pos ⟨rfl, rfl, rfl⟩

theorem observe_of_not_standsFor (h : ∀ e, previous = some e → ¬ StandsFor k child e) :
    observe now k previous child none = ⟨child, absentReady now k⟩ := by
  cases previous with
  | none => rfl
  | some e =>
    refine if_neg ?_
    rintro ⟨hchild, htime, hkept⟩
    obtain ⟨time, htime⟩ := Option.isSome_iff_exists.1 htime
    refine h e rfl ⟨time, ?_⟩
    obtain ⟨_, _⟩ := e
    dsimp only at hchild htime hkept
    rw [hchild, ← hkept, htime]
    rfl

theorem standsFor_observe : StandsFor k child (observe now k previous child none) := by
  by_cases h : ∃ e, previous = some e ∧ StandsFor k child e
  · obtain ⟨e, rfl, he⟩ := h
    rwa [observe_of_standsFor now k child he]
  · rw [observe_of_not_standsFor now k previous child fun e hprevious he => h ⟨e, hprevious, he⟩]
    exact standsFor_absentReady now k child

end

/-! ## All entries -/

section
variable (now : DateTime) (k : ChildKind) (before : List StageStatus) (children : List (Reference × Option Condition))

theorem length_observeAll : (observeAll now k before children).length = children.length := by
  induction children generalizing before with
  | nil => rfl
  | cons child rest ih => simp [observeAll, ih]

theorem getElem?_observeAll (i : Nat) : (observeAll now k before children)[i]? =
    children[i]?.map fun child => observe now k before[i]? child.1 child.2 := by
  induction children generalizing before i with
  | nil => simp [observeAll]
  | cons child rest ih =>
    cases i with
    | zero => simp [observeAll, List.head?_eq_getElem?]
    | succ i => simp [observeAll, ih, List.getElem?_tail]

end

/-! ## What operations do to entries -/

def entries (k : ChildKind) (s : SequenceStatus) : List StageStatus :=
  match k with
  | .channel => s.channels
  | .subscription => s.subscriptions

@[simp] theorem entries_withConditions (k : ChildKind) (cs : Conditions) (s : SequenceStatus) :
    (s.withConditions cs).entries k = s.entries k := by
  cases k <;> rfl

theorem entries_setAddress (k : ChildKind) (now : DateTime) (a : Option Address) (s : SequenceStatus) :
    (s.setAddress now a).entries k = s.entries k := by
  obtain ⟨_, hframe⟩ := setAddress_frame now s a
  rw [hframe, entries_withConditions]
  cases k <;> rfl

theorem entries_markChildren (k k' : ChildKind) (now : DateTime) (es : List StageStatus) (s : SequenceStatus) :
    (s.markChildren now k es).entries k' = s.entries k' := by
  obtain ⟨_, hframe⟩ := markChildren_frame now s k es
  rw [hframe, entries_withConditions]

/-- The children of one sort that an operation propagates. Most operations propagate none, not even an empty list. -/
def Operation.children? : ChildKind → Operation → Option (List (Reference × Option Condition))
  | .channel, .propagateChannels channels | .channel, .pass _ channels _ =>
    some ((channels.getD []).map Channel.seen)
  | .subscription, .propagateSubscriptions subscriptions | .subscription, .pass _ _ subscriptions =>
    some ((subscriptions.getD []).map Subscription.seen)
  | _, _ => none

theorem entries_apply (k : ChildKind) (now : DateTime) (s : SequenceStatus) (op : Operation) :
    (op.apply now s).entries k = match op.children? k with
      | some children => observeAll now k (s.entries k) children
      | none => s.entries k := by
  obtain ⟨_, hframe⟩ := apply_frame now s op
  rw [hframe, entries_withConditions]
  cases k <;> cases op <;> rfl

end SequenceStatus

end Readiness
