import Readiness.Proofs.Condition.Marks

/-!
# Runs of condition operations

A run is a list of operations, each at its own point in time. A refused operation is part of a run like any other:
what it wrote before it was refused stands.

All but clearing comes down to recording, and what is tracked cannot be cleared. So whatever is done in whatever order,
and for any declaration at all, the list keeps its shape and tracked types stay (`shape_of_run`).
-/
namespace Readiness.Declaration

open Calendar Conditions

inductive Operation
  | markTrue (type : String)
  | markTrueWith (type : String) (reason message : Text)
  | markUnknown (type : String) (reason message : Text)
  | markFalse (type : String) (reason message : Text)
  | set (c : Condition)
  | clear (type : String)
  | seedMissing

def Operation.apply (s : Declaration) (now : DateTime) : Operation → Conditions → Outcome
  | .markTrue type => s.markTrue now type
  | .markTrueWith type reason message => s.markTrueWith now type reason message
  | .markUnknown type reason message => s.markUnknown now type reason message
  | .markFalse type reason message => s.markFalse now type reason message
  | .set c => fun cs => ⟨cs.set now c, none⟩
  | .clear type => s.clear type
  | .seedMissing => s.seedMissing now

/-- Operations that write no tracked type but through marks, seeds included, and mark no happy condition. -/
def Operation.Spares (s : Declaration) : Operation → Prop
  | .markTrue type | .markTrueWith type _ _ | .markUnknown type _ _ | .markFalse type _ _ => type ≠ s.happy
  | .set c => c.type.val ∉ s.types
  | .clear _ | .seedMissing => True

instance (s : Declaration) : (op : Operation) → Decidable (op.Spares s)
  | .markTrue _ | .markTrueWith .. | .markUnknown .. | .markFalse .. => inferInstanceAs (Decidable (_ ≠ _))
  | .set _ => inferInstanceAs (Decidable (_ ∉ _))
  | .clear _ | .seedMissing => .isTrue trivial

/-- Marks that take a dependent down, to unknown or to false. -/
def Operation.Lowers (s : Declaration) : Operation → Prop
  | .markUnknown type _ _ | .markFalse type _ _ => type ∈ s.dependents
  | .markTrue _ | .markTrueWith .. | .set _ | .clear _ | .seedMissing => False

instance (s : Declaration) : (op : Operation) → Decidable (op.Lowers s)
  | .markUnknown .. | .markFalse .. => inferInstanceAs (Decidable (_ ∈ _))
  | .markTrue _ | .markTrueWith .. | .set _ | .clear _ | .seedMissing => .isFalse id

/-- The one type that an operation is about. Seeding is about all that are tracked. -/
def Operation.target? : Operation → Option String
  | .markTrue type | .markTrueWith type _ _ | .markUnknown type _ _ | .markFalse type _ _ | .clear type => some type
  | .set c => some c.type.val
  | .seedMissing => none

/-- An operation at a point in time. -/
abbrev Step := DateTime × Operation

def run (s : Declaration) (steps : List Step) (cs : Conditions) : Conditions :=
  steps.foldl (fun cs st => (st.2.apply s st.1 cs).conditions) cs

/-- What every step keeps, a run keeps. -/
theorem run_keeps {s : Declaration} {P : Conditions → Prop} (steps : List Step)
    (hstep : ∀ st ∈ steps, ∀ cs, P cs → P (st.2.apply s st.1 cs).conditions) {cs : Conditions} (h : P cs) :
    P (s.run steps cs) := by
  induction steps generalizing cs with
  | nil => exact h
  | cons st steps ih =>
    exact ih (fun st' h' => hstep st' (List.mem_cons_of_mem _ h')) (hstep st (by simp) cs h)

theorem run_append {s : Declaration} (before after : List Step) (cs : Conditions) :
    s.run (before ++ after) cs = s.run after (s.run before cs) :=
  List.foldl_append

/-! ## The shape of the list -/

section
variable (s : Declaration) (now : DateTime) (op : Operation) {cs : Conditions}

theorem written_or_clear (cs : Conditions) :
    (∃ types, Written types cs (op.apply s now cs).conditions) ∨ ∃ type, op = .clear type := by
  cases op with
  | markTrue type => exact .inl ⟨_, written_markTrueWith type⟩
  | markTrueWith type reason message => exact .inl ⟨_, written_markTrueWith type⟩
  | markUnknown type reason message => exact .inl ⟨_, written_markUnknown type⟩
  | markFalse type reason message => exact .inl ⟨_, written_markFalse type⟩
  | set c => exact .inl ⟨_, Written.refl.set now c (List.mem_singleton_self _)⟩
  | clear type => exact .inr ⟨type, rfl⟩
  | seedMissing => exact .inl ⟨_, written_seedMissing s now cs⟩

theorem distinct_apply (h : cs.Distinct) : (op.apply s now cs).conditions.Distinct := by
  obtain ⟨types, hw⟩ | ⟨type, rfl⟩ := written_or_clear s now op cs
  · exact hw.distinct h
  · exact distinct_clear h type

theorem sorted_apply (h : cs.Sorted) : (op.apply s now cs).conditions.Sorted := by
  obtain ⟨types, hw⟩ | ⟨type, rfl⟩ := written_or_clear s now op cs
  · exact hw.sorted h
  · exact sorted_clear h type

theorem get?_apply_ne_none {t : String} (ht : t ∈ s.types) (h : cs.get? t ≠ none) :
    (op.apply s now cs).conditions.get? t ≠ none := by
  obtain ⟨types, hw⟩ | ⟨type, rfl⟩ := written_or_clear s now op cs
  · exact hw.get?_ne_none h
  · have hsame : (Operation.apply s now (.clear type) cs).conditions.get? t = cs.get? t := get?_clear type ht
    rwa [hsame]

end

theorem sorted_run {s : Declaration} (steps : List Step) {cs : Conditions} (h : cs.Sorted) : (s.run steps cs).Sorted :=
  run_keeps steps (fun st _ _ => sorted_apply s st.1 st.2) h

/-- **The shape of the list.** At every point of a run the list is sorted by type, strictly, so that no type is in it
twice; and a tracked type that is there stays there for the rest of the run. -/
theorem shape_of_run (s : Declaration) (before after : List Step) :
    (s.run before []).Sorted ∧ (s.run before []).Distinct ∧
    ∀ t ∈ s.types, (s.run before []).has t = true → (s.run (before ++ after) []).has t = true := by
  have hsorted : (s.run before []).Sorted := sorted_run before sorted_nil
  refine ⟨hsorted, distinct_of_sorted hsorted, fun t ht hthere => ?_⟩
  rw [run_append, has_iff]
  exact run_keeps (P := fun cs => cs.get? t ≠ none) after (fun st _ _ => get?_apply_ne_none s st.1 st.2 ht)
    (has_iff.1 hthere)

/-- Neither a name that is refused nor a happy type that is listed among its own dependents is in the way. -/
theorem shape_of_run_with_refusal :
    let s : Declaration := ⟨"Ready", ["Disk", "Ready"]⟩
    let before : List Step := [(default, .markUnknown "Disk" "Silent" ""), (default, .markTrue "")]
    let after : List Step := [(default, .markTrue "Ready"), (default, .clear "Disk"), (default, .seedMissing)]
    "Disk" ∈ s.types ∧ (s.run before []).has "Disk" = true ∧ (s.run (before ++ after) []).has "Disk" = true := by
  intro s before after
  have ht : "Disk" ∈ s.types := by decide
  have hthere : (s.run before []).has "Disk" = true := by decide
  exact ⟨ht, hthere, (shape_of_run s before after).2.2 "Disk" ht hthere⟩

end Readiness.Declaration
