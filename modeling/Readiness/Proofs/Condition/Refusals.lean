import Readiness.Proofs.Condition.Runs
import Readiness.Proofs.Schema.Reading

/-!
# Refused operations leave no trace

What stands before a refused write stays, and so an operation of several writes could be refused halfway. Where the
tracked types are names that conditions can have, only the first write of a mark can be refused: the ones after it are
about the happy condition, and repeat a reason and a message that were accepted before. So an operation that is refused
leaves the list as it was (`refusedIff_apply`), and is as good as never called (`run_filter_accepted`).

Callers give types as any texts. A text that holds half of a character is no type, however long it is
(`refused_half`); but for these, marks are refused for the length of the type alone (`refused_without_trace`).
-/
namespace Readiness

open Calendar Schema

/-! ## Types as texts -/

theorem Text.length_ofString (s : String) : (Text.ofString s).length = s.length := by
  simp [Text.length, Text.ofString, Text.ofChars, String.length_toList]

theorem exists_conditionType_iff {type : Text} :
    (∃ t : ConditionType, type = t.val) ↔ type.IsWhole ∧ 1 ≤ type.length ∧ type.length ≤ 316 := by
  constructor
  · rintro ⟨t, rfl⟩
    rw [Text.length_ofString]
    exact ⟨Text.isWhole_ofString _, t.property⟩
  · rintro ⟨hwhole, hlength⟩
    obtain ⟨t, rfl⟩ := Text.exists_ofString_of_isWhole hwhole
    rw [Text.length_ofString] at hlength
    exact ⟨⟨t, hlength⟩, rfl⟩

namespace Condition

variable {type reason message : Text}

theorem decodeType_eq_accepted_iff {t : ConditionType} : decodeType (.str type) = .accepted t ↔ type = t.val := by
  constructor
  · intro h
    cases htype : type.toString? with
    | none => simp [decodeType, Decoder.boundedText, Decoder.characters, Decoder.Content.of, htype, Decoded.reject,
        Decoded.andCheck] at h
    | some t' =>
      obtain rfl := Text.toString?_eq_some_iff.1 htype
      simp only [decodeType, Decoder.boundedText, Decoder.characters, Decoder.Content.of, htype, Option.elim_some,
        Decoded.andCheck, Decoder.checkLength] at h
      split at h
      · exact congrArg (fun t : ConditionType => (t.val : Text)) (Decoded.accepted.inj h)
      · split at h <;> cases h
  · rintro rfl
    exact reads_boundedText t _ rfl

/-- The reason and the message are never at fault. -/
theorem describe_eq : describe (.str type) (.str reason) (.str message) =
    (((decodeType (.str type)).within (.name typeField.key)).map
      fun t => { type := t, reason := reason, message := message }).toExcept "Condition" := by
  have hgiven : ∀ v : Value, typeField.given? [(.str typeField.key, v), (.str reasonField.key, .str reason),
      (.str messageField.key, .str message)] = some (typeField.key, v) := fun _ => rfl
  unfold describe decode record
  simp only [Value.expose, FieldName.require, hgiven]
  cases h : decodeType (.str type) with
  | accepted t => rfl
  | rejected issues => rfl

theorem exists_describe_iff : (∃ c, describe (.str type) (.str reason) (.str message) = .ok c) ↔
    ∃ t : ConditionType, type = t.val := by
  rw [describe_eq]
  cases h : decodeType (.str type) with
  | accepted t => exact iff_of_true ⟨_, rfl⟩ ⟨t, decodeType_eq_accepted_iff.1 h⟩
  | rejected issues =>
    have hno : ¬ ∃ t : ConditionType, type = t.val := by
      rintro ⟨t, ht⟩
      rw [decodeType_eq_accepted_iff.2 ht] at h
      cases h
    exact iff_of_false (by rintro ⟨c, hc⟩; cases hc) hno

end Condition

/-! ## Outcomes -/

/-- What an operation comes to that is refused in one case only, and then leaves the conditions as they were. -/
structure Outcome.RefusedIff (o : Outcome) (cs : Conditions) (P : Prop) : Prop where
  refused : o.refusal ≠ none ↔ P
  untouched : o.refusal ≠ none → o.conditions = cs

namespace Outcome.RefusedIff

variable {o : Outcome} {cs : Conditions} {P : Prop}

theorem of_refused {r : Refusal} (h : o = ⟨cs, some r⟩) (hP : P) : o.RefusedIff cs P := by
  subst h
  exact ⟨iff_of_true (Option.some_ne_none r) hP, fun _ => rfl⟩

theorem of_accepted (h : o.refusal = none) (hP : ¬ P) : o.RefusedIff cs P :=
  ⟨iff_of_false (not_not_intro h) hP, fun hr => absurd h hr⟩

theorem congr {Q : Prop} (h : o.RefusedIff cs P) (hPQ : P ↔ Q) : o.RefusedIff cs Q := ⟨h.refused.trans hPQ, h.untouched⟩

end Outcome.RefusedIff

namespace Declaration

open Conditions

variable {s : Declaration} {now : DateTime} {cs : Conditions} {status : Status} {reason message : Text}

/-! ## Operations -/

/-- Operations that are refused, whatever the conditions are. -/
def Operation.IsRefused (s : Declaration) : Operation → Prop
  | .markTrue type | .markTrueWith type _ _ | .markUnknown type _ _ | .markFalse type _ _ => ¬ IsTypeName type
  | .clear type => type ∈ s.types
  | .set _ | .seedMissing => False

instance (s : Declaration) : (op : Operation) → Decidable (op.IsRefused s)
  | .markTrue _ | .markTrueWith .. | .markUnknown .. | .markFalse .. => inferInstanceAs (Decidable (¬ _))
  | .clear _ => inferInstanceAs (Decidable (_ ∈ _))
  | .set _ | .seedMissing => .isFalse id

theorem apply_of_isRefused {op : Operation} (h : op.IsRefused s) (now : DateTime) (cs : Conditions) :
    ∃ r, op.apply s now cs = ⟨cs, some r⟩ := by
  cases op with
  | markTrue type => exact exists_andThen_of_not_name h _
  | markTrueWith type reason message => exact exists_andThen_of_not_name h _
  | markUnknown type reason message =>
    unfold Operation.apply markUnknown
    exact exists_andThen_of_not_name h _
  | markFalse type reason message =>
    unfold Operation.apply markFalse
    exact exists_andThen_of_not_name h _
  | clear type => exact ⟨.terminal type, if_pos (isTerminal_iff.2 h)⟩
  | set c => exact absurd h id
  | seedMissing => exact absurd h id

/-! After a first write that is accepted, a mark is not refused any more. -/

theorem refusal_raiseHappy (hn : s.WellNamed) : (s.raiseHappy now cs).refusal = none := by
  unfold raiseHappy
  split
  · rw [write_eq ⟨s.happy, hn.happy⟩]
  · rfl

theorem refusal_markTrueWith (hn : s.WellNamed) (type : ConditionType) :
    (s.markTrueWith now type.val reason message cs).refusal = none := by
  rw [markTrueWith_eq]
  exact refusal_raiseHappy hn

theorem refusal_markFalse (hn : s.WellNamed) (type : ConditionType) :
    (s.markFalse now type.val reason message cs).refusal = none := by
  by_cases ht : type.val = s.happy
  · rw [ht, markFalse_happy hn]
  · rw [markFalse_eq type ht]
    split
    · rw [write_eq ⟨s.happy, hn.happy⟩]
    · rfl

theorem refusal_markUnknown (hn : s.WellNamed) (type : ConditionType) :
    (s.markUnknown now type.val reason message cs).refusal = none := by
  rw [markUnknown_eq]
  dsimp only
  split
  · split
    · rfl
    · rw [markFalse_happy hn]
  · split
    · rw [write_eq ⟨s.happy, hn.happy⟩]
    · rfl

/-- One operation. -/
theorem refusedIff_apply (hn : s.WellNamed) (now : DateTime) (op : Operation) (cs : Conditions) :
    (op.apply s now cs).RefusedIff cs (op.IsRefused s) := by
  by_cases h : op.IsRefused s
  · obtain ⟨r, hr⟩ := apply_of_isRefused h now cs
    exact .of_refused hr h
  · refine .of_accepted ?_ h
    cases op with
    | markTrue type => exact refusal_markTrueWith hn ⟨type, Decidable.not_not.1 h⟩
    | markTrueWith type reason message => exact refusal_markTrueWith hn ⟨type, Decidable.not_not.1 h⟩
    | markUnknown type reason message => exact refusal_markUnknown hn ⟨type, Decidable.not_not.1 h⟩
    | markFalse type reason message => exact refusal_markFalse hn ⟨type, Decidable.not_not.1 h⟩
    | set c => rfl
    | clear type => exact congrArg Outcome.refusal (if_neg fun hterm => h (isTerminal_iff.1 hterm))
    | seedMissing => exact seedMissing_refusal hn now cs

/-- A run gets where it gets without the operations that are refused. -/
theorem run_filter_accepted (s : Declaration) (steps : List Step) (cs : Conditions) :
    s.run (steps.filter fun st => ¬ st.2.IsRefused s) cs = s.run steps cs := by
  induction steps generalizing cs with
  | nil => rfl
  | cons st steps ih =>
    by_cases h : st.2.IsRefused s
    · obtain ⟨r, hr⟩ := apply_of_isRefused h st.1 cs
      rw [List.filter_cons_of_neg (by simpa using h), ih]
      show s.run steps cs = s.run steps (st.2.apply s st.1 cs).conditions
      rw [hr]
    · rw [List.filter_cons_of_pos (by simpa using h)]
      exact ih _

/-! ## Types, reasons and messages as they are given -/

/-- All operations that are called with a type, a reason and a message; the first makes no use of the latter two. -/
def allMarks (s : Declaration) (now : DateTime) : List (String → Text → Text → Conditions → Outcome) :=
  [fun type _ _ => s.markTrue now type, s.markTrueWith now, s.markUnknown now, s.markFalse now]

theorem refusal_of_mem_allMarks (hn : s.WellNamed) {mark : String → Text → Text → Conditions → Outcome}
    (hmark : mark ∈ s.allMarks now) (type : ConditionType) : (mark type.val reason message cs).refusal = none := by
  simp only [allMarks, List.mem_cons, List.not_mem_nil, or_false] at hmark
  obtain rfl | rfl | rfl | rfl := hmark
  · exact refusal_markTrueWith hn type
  · exact refusal_markTrueWith hn type
  · exact refusal_markUnknown hn type
  · exact refusal_markFalse hn type

theorem refusedIff_marked (hn : s.WellNamed) {mark : String → Text → Text → Conditions → Outcome}
    (hmark : mark ∈ s.allMarks now) (type reason message : Value) (cs : Conditions) :
    (marked mark type reason message cs).RefusedIff cs (¬ ∃ c, Condition.describe type reason message = .ok c) := by
  unfold marked
  cases Condition.describe type reason message with
  | ok c => exact .of_accepted (refusal_of_mem_allMarks hn hmark c.type) (by simp)
  | error r => exact .of_refused rfl (by simp)

theorem refusedIff_clearNamed (hn : s.WellNamed) (type : Text) (cs : Conditions) :
    (s.clearNamed type cs).RefusedIff cs (∃ t ∈ s.types, type = t) := by
  unfold clearNamed
  split
  · rename_i t htype
    obtain rfl := Text.toString?_eq_some_iff.1 htype
    exact (refusedIff_apply hn default (.clear t) cs).congr (by simp [Operation.IsRefused])
  · rename_i htype
    refine .of_accepted rfl ?_
    rintro ⟨t, -, rfl⟩
    simp at htype

/-- **Refused operations leave no trace.** Of a well-named set, with any stored list: a mark is refused if and only if
its type has no character, more than 316 or half of one, whatever its reason and message are; clearing is refused if and
only if the type is tracked; seeding never is. Whatever is refused leaves the list exactly as it was. -/
theorem refused_without_trace (hn : s.WellNamed) (now : DateTime) (cs : Conditions) :
    (∀ mark ∈ s.allMarks now, ∀ type reason message : Text,
      (marked mark (.str type) (.str reason) (.str message) cs).RefusedIff cs
        (¬ (type.IsWhole ∧ 1 ≤ type.length ∧ type.length ≤ 316))) ∧
    (∀ type : Text, (s.clearNamed type cs).RefusedIff cs (∃ t ∈ s.types, type = t)) ∧
    (s.seedMissing now cs).RefusedIff cs False := by
  refine ⟨fun mark hmark type reason message => ?_, fun type => refusedIff_clearNamed hn type cs,
    .of_accepted (seedMissing_refusal hn now cs) id⟩
  exact (refusedIff_marked hn hmark _ _ _ cs).congr
    (not_congr (Condition.exists_describe_iff.trans exists_conditionType_iff))

/-- A mark without a type and the clearing of a tracked type are refused, and the disk stays what it is; a mark of the
disk is accepted. -/
theorem refused_without_trace_beside_disk :
    let s : Declaration := ConditionSet.living ["Disk"]
    let cs := s.run [(default, .markTrue "Disk")] []
    s.WellNamed ∧ (marked (s.markFalse default) (.str "") (.str "Full") (.str "") cs).conditions = cs ∧
      (s.clearNamed "Disk" cs).conditions = cs ∧
      (marked (s.markFalse default) (.str "Disk") (.str "Full") (.str "") cs).refusal = none := by
  intro s cs
  have hn : s.WellNamed := ⟨by decide, by decide⟩
  obtain ⟨hmarks, hclear, -⟩ := refused_without_trace hn default cs
  have hfalse : s.markFalse default ∈ s.allMarks default := by simp [allMarks]
  refine ⟨hn, ?_, ?_, ?_⟩
  · have hempty := hmarks _ hfalse "" "Full" ""
    exact hempty.untouched (hempty.refused.2 (by decide))
  · exact (hclear "Disk").untouched ((hclear "Disk").refused.2 ⟨"Disk", by decide, rfl⟩)
  · exact Decidable.not_not.1 fun hr => (hmarks _ hfalse "Disk" "Full" "").refused.1 hr (by decide)

/-- A type of length 1 that is refused. -/
theorem refused_half :
    let s : Declaration := ConditionSet.living ["Disk"]
    let half : Text := ⟨[0xD83D]⟩
    s.WellNamed ∧ half.length = 1 ∧
      (marked (fun type _ _ => s.markTrue default type) (.str half) (.str "") (.str "") []).refusal ≠ none :=
  ⟨⟨by decide, by decide⟩, rfl, by decide⟩

end Declaration

end Readiness
