import Readiness.Log.Session
import Readiness.Proofs.Value.Copy
import Readiness.Proofs.Value.Entries

/-!
# What a context says

The fields of a context are there exactly if everything in it can be copied (`Context.fields_eq_ok_iff`). What a record
shows of a key is then settled in a fixed order: extra entries of the context, its named fields, what the call passed,
and for the component the logger itself (`Logger.at?_data`).
-/
namespace Readiness.Log

open Entries

/-! ## Copies -/

/-- Every named field and every extra entry of a context can be copied. -/
structure Context.IsCopyable (c : Context) : Prop where
  named : ∀ k, (c.named k).IsCopyable
  extra : ∀ e ∈ c.extra, e.1.IsCopyable ∧ e.2.IsCopyable

namespace Context

variable {c : Context}

theorem isCopyable_iff : c.IsCopyable ↔ (Value.list c.contents).IsCopyable := by
  have hkeys : ∀ k : ContextKey, k ∈ ContextKey.all := fun k => by cases k <;> decide
  rw [Value.isCopyable_list_iff, contents, List.forall_mem_append, List.forall_mem_map, List.forall_mem_singleton,
    Value.isCopyable_map_iff]
  exact ⟨fun h => ⟨fun k _ => h.named k, h.extra⟩, fun h => ⟨fun k => h.1 k (hkeys k), h.2⟩⟩

theorem fields_eq_ok_iff {shown : Entries} : c.fields = .ok shown ↔ c.IsCopyable ∧ shown = c.entries := by
  have hcopied : (∃ w, (Value.list c.contents).copied = .ok w) ↔ c.IsCopyable := by
    simp [Value.copied_eq_ok_iff, isCopyable_iff]
  rw [← hcopied]
  unfold fields
  cases (Value.list c.contents).copied <;> simp [Except.map, eq_comm]

theorem fields_of_isCopyable (h : c.IsCopyable) : c.fields = .ok c.entries := fields_eq_ok_iff.2 ⟨h, rfl⟩

theorem exists_fields_eq_error_iff : (∃ f, c.fields = .error f) ↔ ¬ c.IsCopyable := by
  have hok : (∃ shown, c.fields = .ok shown) ↔ c.IsCopyable := by simp [fields_eq_ok_iff]
  rw [← hok]
  cases c.fields <;> simp

end Context

/-! ## Keys -/

namespace Context

/-- The named field that a key asks for, unless it is null. -/
def field? (c : Context) (k : Value) : Option Value :=
  (ContextKey.all.find? fun j => decide (Value.str j.name = k ∧ c.named j ≠ .null)).map c.named

/-- The named fields to write. -/
def namedFields (c : Context) : Entries :=
  (ContextKey.all.map fun k => (Value.str k.name, c.named k)).filter fun e => e.2 ≠ .null

theorem at?_namedFields (c : Context) (k : Value) : c.namedFields.at? k = c.field? k := by
  unfold namedFields field?
  induction ContextKey.all with
  | nil => rfl
  | cons j js ih =>
    rw [List.map_cons, List.filter_cons, List.find?_cons]
    by_cases hnull : c.named j = .null
    · simpa [hnull] using ih
    · by_cases hk : Value.str j.name = k
      · simp [hnull, hk, at?_cons]
      · have hkey : (Value.str j.name).sameKey k = false := by
          rw [Value.sameKey_comm]
          simpa using fun h => hk h.symm
        simpa [hnull, hk, at?_cons, hkey] using ih

theorem unique_namedFields (c : Context) : c.namedFields.Unique := by
  refine List.Pairwise.filter _ (List.pairwise_map.2 ?_)
  have hnames : ContextKey.all.Pairwise fun j k => j.name ≠ k.name := by decide
  exact hnames.imp fun h => by simpa using h

theorem at?_entries (c : Context) (k : Value) : c.entries.at? k = ((ofList c.extra).at? k).or (c.field? k) := by
  rw [← at?_namedFields]
  exact at?_merge c.namedFields c.extra k

theorem unique_entries (c : Context) : c.entries.Unique := c.unique_namedFields.merge c.extra

end Context

/-- What a logger says of a key by itself. -/
def Logger.own? (l : Logger) (k : Value) : Option Value :=
  if k = .str "component" then l.component.map fun c => .str c.text else none

theorem Logger.at?_data (l : Logger) (c : Context) (passed : Entries) (k : Value) :
    Entries.at? (l.data c.entries passed) k =
      ((ofList c.extra).at? k).or ((c.field? k).or ((passed.at? k).or (l.own? k))) := by
  have hoverlaid : (passed.merge c.entries).at? k = ((ofList c.extra).at? k).or ((c.field? k).or (passed.at? k)) := by
    rw [at?_merge, ofList_of_unique c.unique_entries, Context.at?_entries, Option.or_assoc]
  have hown : Entries.at? (l.data c.entries passed) k = ((passed.merge c.entries).at? k).or (l.own? k) := by
    unfold data own?
    dsimp only
    cases l.component with
    | none => simp
    | some component =>
      have htext : ∀ v : Value, (Value.str "component").sameKey v = decide (v = .str "component") := fun v => by
        rw [Value.sameKey_comm, Value.sameKey_str]
      by_cases hk : k = .str "component"
      · subst hk
        cases hfound : (passed.merge c.entries).at? (.str "component") with
        | none => simp [has, get?_eq_at?, hfound, at?_put]
        | some v => simp [has, get?_eq_at?, hfound]
      · simp only [hk, if_false, Option.or_none]
        split
        · rfl
        · simp [at?_put, htext, hk]
  rw [hown, hoverlaid, Option.or_assoc, Option.or_assoc]

end Readiness.Log
