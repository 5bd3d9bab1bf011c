import Readiness.Proofs.Log.Fields
import Readiness.Proofs.Value.Json

/-!
# When structured lines are JSON

A structured line has its message and source, and what else is wanted and there. Whatever a record carries and whatever
context it is written in, the line is JSON unless there is a double without digits in one of its fields
(`json_of_structuredLine`): the grammar has no word for those, but the line has. A whole number that has too many digits
leaves no line at all.

Values may be nested to any depth here. How deep calls may go in an interpreter is not modelled, where a value that is
nested deeper than that has no line either.
-/
namespace Readiness

open Text Value
open Json (Denotes)

/-! ## Plain mappings -/

namespace Value

theorem isPlain_map_iff {es : Entries} : (Value.map es).IsPlain ↔ ∀ e ∈ es, (∃ s, e.1 = .str s) ∧ e.2.IsPlain := by
  constructor
  · rintro (_ | _ | _ | _ | _ | _ | _ | ⟨hkeys, h⟩) e he
    exact ⟨hkeys e he, h e he⟩
  · exact fun h => .map (fun e he => (h e he).1) fun e he => (h e he).2

theorem isPlain_put {es : Entries} {s : Text} {v : Value} (h : (Value.map es).IsPlain) (hv : v.IsPlain) :
    (Value.map (es.put (.str s) v)).IsPlain := by
  rw [isPlain_map_iff] at h ⊢
  induction es with
  | nil => simpa [Entries.put] using hv
  | cons e es ih =>
    obtain ⟨⟨l, hl⟩, hw⟩ := h e List.mem_cons_self
    have hrest : ∀ e ∈ es, (∃ s, e.1 = .str s) ∧ e.2.IsPlain := fun e he => h e (List.mem_cons_of_mem _ he)
    unfold Entries.put
    split
    · simpa using ⟨⟨⟨l, hl⟩, hv⟩, fun k w hmem => hrest (k, w) hmem⟩
    · simpa using ⟨⟨⟨l, hl⟩, hw⟩, fun k w hmem => ih hrest (k, w) hmem⟩

theorem isPlain_merge {es more : Entries} (h : (Value.map es).IsPlain) (hmore : (Value.map more).IsPlain) :
    (Value.map (es.merge more)).IsPlain := by
  unfold Entries.merge
  induction more generalizing es with
  | nil => exact h
  | cons e more ih =>
    rw [isPlain_map_iff] at hmore
    obtain ⟨⟨s, hs⟩, hv⟩ := hmore e List.mem_cons_self
    rw [List.foldl_cons, hs]
    exact ih (isPlain_put h hv) (isPlain_map_iff.2 fun e he => hmore e (List.mem_cons_of_mem _ he))

theorem isCopyable_of_isPlain {v : Value} (h : v.IsPlain) : v.IsCopyable := by
  induction h with
  | list _ ih => exact isCopyable_list_iff.2 ih
  | map hkeys _ ih =>
    refine isCopyable_map_iff.2 fun e he => ⟨?_, ih e he⟩
    obtain ⟨s, hs⟩ := hkeys e he
    rw [hs]
    exact isCopyable_of_no_parts trivial rfl
  | _ => exact isCopyable_of_no_parts trivial rfl

end Value

namespace Log

/-- Every field of a context is plain, and so is every extra entry. -/
structure Context.IsPlain (c : Context) : Prop where
  named : ∀ k, (c.named k).IsPlain
  extra : (Value.map c.extra).IsPlain

theorem Context.IsPlain.entries {c : Context} (h : c.IsPlain) : (Value.map c.entries).IsPlain := by
  refine isPlain_merge (isPlain_map_iff.2 fun e he => ?_) h.extra
  obtain ⟨k, _, rfl⟩ := List.mem_map.1 (List.mem_filter.1 he).1
  exact ⟨⟨k.name, rfl⟩, h.named k⟩

theorem Context.IsPlain.isCopyable {c : Context} (h : c.IsPlain) : c.IsCopyable where
  named k := isCopyable_of_isPlain (h.named k)
  extra := isCopyable_map_iff.1 (isCopyable_of_isPlain h.extra)

/-! ## Fields of a line -/

variable {o : StructuredOptions} {now : Calendar.DateTime} {c : Context} {e : Entry}

theorem mem_fieldIf {present : Bool} {name : Text} {v : Value} {f : Text × Value} (h : f ∈ fieldIf present name v) :
    f = (name, v) := by
  unfold fieldIf at h
  split at h
  · exact List.mem_singleton.1 h
  · exact absurd h List.not_mem_nil

theorem isPlain_source (origin : Origin) : origin.toValue.IsPlain := by
  have hfunction : (origin.function.elim Value.null fun s => .str s).IsPlain := by
    cases origin.function with
    | none => exact .null
    | some s => exact .str s
  refine isPlain_map_iff.2 ?_
  simp only [Fields.entries, List.map_cons, List.map_nil, List.forall_mem_cons, List.not_mem_nil, false_imp_iff,
    implies_true, and_true]
  exact ⟨⟨⟨_, rfl⟩, .str _⟩, ⟨⟨_, rfl⟩, .int _⟩, ⟨_, rfl⟩, hfunction⟩

theorem isPlain_structuredFields (hc : c.IsPlain) (he : e.record.extra.IsPlain) :
    ∀ f ∈ structuredFields o now c e, f.2.IsPlain := by
  intro f hf
  simp only [structuredFields, List.mem_append, List.mem_singleton] at hf
  rcases hf with ((((((hf | hf) | hf) | rfl) | hf) | hf) | hf) | rfl
  · exact mem_fieldIf hf ▸ .str _
  · exact mem_fieldIf hf ▸ .str _
  · exact mem_fieldIf hf ▸ .str _
  · exact .str _
  · exact mem_fieldIf hf ▸ hc.entries
  · exact mem_fieldIf hf ▸ he
  · exact mem_fieldIf hf ▸ .str _
  · exact isPlain_source e.origin

theorem isPlain_toValue {fs : Fields} (h : ∀ f ∈ fs, f.2.IsPlain) : fs.toValue.IsPlain := by
  refine isPlain_map_iff.2 fun entry hentry => ?_
  obtain ⟨f, hf, rfl⟩ := List.mem_map.1 hentry
  exact ⟨⟨f.1, rfl⟩, h f hf⟩

/-- What is so of no mapping is so in fields only where it is so in one of them. -/
theorem has_toValue {p : Value → Prop} (hp : ∀ es, ¬ p (.map es)) {fs : Fields} :
    fs.toValue.Has p ↔ ∃ f ∈ fs, f.2.Has p := has_map_map (hp _)

theorem json_toValue (fs : Fields) : fs.toValue.json = .object (fs.map fun f => (f.1.units, f.2.json)) := by
  simp [Fields.toValue, Fields.entries, json, entriesJson_eq, text, text?]

/-- The names of the fields of a structured line: those of its message and source, and of what is wanted and there. -/
def fieldNames (o : StructuredOptions) (c : Context) (e : Entry) : List Text :=
  let parts : List (Text × Bool) := [("timestamp", o.timestamp), ("level", o.level), ("logger", o.logger),
    ("message", true), ("context", o.context && !c.entries.isEmpty), ("data", e.record.extra.isSome),
    ("exception", e.failure.isSome), ("source", true)]
  parts.flatMap fun p => if p.2 then [p.1] else []

theorem names_structuredFields : (structuredFields o now c e).map Prod.fst = fieldNames o c e := by
  have hif : ∀ (present : Bool) (name : Text) (v : Value),
      (fieldIf present name v).map Prod.fst = if present then [name] else [] := by
    intro present name v
    cases present <;> rfl
  simp [structuredFields, hif, fieldNames]

/-! ## What a line takes over -/

/-- Something is so of what a line takes over: of the context if that is wanted, of the data if there are any, or of the
number of the line of source. -/
def TakesOver (p : Value → Prop) (o : StructuredOptions) (c : Context) (e : Entry) : Prop :=
  (o.context = true ∧ (Value.map c.entries).Has p) ∨ (e.record.extra.isSome = true ∧ e.record.extra.Has p) ∨
    p (.int e.origin.line)

theorem has_fieldIf {p : Value → Prop} {present : Bool} {name : Text} {v : Value} :
    (∃ f ∈ fieldIf present name v, f.2.Has p) ↔ present = true ∧ v.Has p := by
  cases present <;> simp [fieldIf]

/-- What is so of numbers alone comes into a line from the outside only. -/
theorem has_structuredFields {p : Value → Prop} (hp : ∀ v, p v → (∃ n, v = .int n) ∨ ∃ x, v = .float x) :
    (structuredFields o now c e).toValue.Has p ↔ TakesOver p o c e := by
  have hmap : ∀ es, ¬ p (.map es) := fun es h => by simpa using hp _ h
  have hstr : ∀ s, ¬ p (.str s) := fun s h => by simpa using hp _ h
  have hnull : ¬ p .null := fun h => by simpa using hp _ h
  have hsource : e.origin.toValue.Has p ↔ p (.int e.origin.line) := by
    unfold Origin.toValue
    rw [has_toValue hmap]
    cases e.origin.function <;> simp [hstr, hnull]
  have hcontext : (o.context && !c.entries.isEmpty) = true ∧ (Value.map c.entries).Has p ↔
      o.context = true ∧ (Value.map c.entries).Has p := by
    cases c.entries <;> simp [has_map, hmap]
  rw [has_toValue hmap]
  simp only [structuredFields, List.mem_append, or_and_right, exists_or, has_fieldIf, hcontext]
  simp [TakesOver, hstr, hsource, or_assoc]

theorem has_isLong : (structuredFields o now c e).toValue.Has IsLong ↔ TakesOver IsLong o c e := by
  refine has_structuredFields fun v hv => ?_
  cases v <;> simp_all [IsLong]

theorem has_isDigitless : (structuredFields o now c e).toValue.Has IsDigitless ↔ TakesOver IsDigitless o c e := by
  refine has_structuredFields fun v hv => ?_
  cases v <;> simp_all [IsDigitless]

/-! ## The line -/

/-- A plain context is copied, so that only the writing of the line can fail. -/
theorem structuredLine_eq_ok_iff (hc : c.IsPlain) {s : String} :
    structuredLine o now c e = .ok s ↔ (structuredFields o now c e).toValue.jsonText = .ok s := by
  have hcopied : ∃ shown, (if o.context then c.fields else .ok []) = .ok shown := by
    rw [Context.fields_of_isCopyable hc.isCopyable]
    split <;> exact ⟨_, rfl⟩
  obtain ⟨shown, hshown⟩ := hcopied
  unfold structuredLine
  rw [hshown]
  cases (structuredFields o now c e).toValue.jsonText <;> simp [LineFault.ofWriting]

/-- **A structured line is JSON unless it takes over a double without digits.** For any record with plain data, in any
context of plain fields: there is a line unless it takes over a whole number that has too many digits. The line is one
line, of printable ASCII. It is JSON exactly if no double that it takes over is infinite or no number, and then it stands
for the object of its fields, whose names are those of the message and the source, and of what is wanted and there. -/
theorem json_of_structuredLine (o : StructuredOptions) (now : Calendar.DateTime) (hc : c.IsPlain)
    (he : e.record.extra.IsPlain) :
    let fields := structuredFields o now c e
    let line := structuredLine o now c e
    ((∃ s, line = .ok s) ↔ ¬ TakesOver IsLong o c e) ∧
    (∀ s, line = .ok s →
      InLine s.toList ∧
      ((∃ j, Denotes s.toList j) ↔ ¬ TakesOver IsDigitless o c e) ∧
      (¬ TakesOver IsDigitless o c e → Denotes s.toList (.object (fields.map fun f => (f.1.units, f.2.json))))) ∧
    fields.map Prod.fst = fieldNames o c e := by
  intro fields line
  have hplain : fields.toValue.IsPlain := isPlain_toValue (isPlain_structuredFields hc he)
  refine ⟨?_, fun s hs => ?_, names_structuredFields⟩
  · have hline : (∃ s, line = .ok s) ↔ ¬ fields.toValue.Has IsLong :=
      (exists_congr fun s => structuredLine_eq_ok_iff hc).trans (exists_jsonIn_iff hplain)
    rwa [has_isLong] at hline
  · have hwritten : Written fields.toValue s := written_jsonIn hplain ((structuredLine_eq_ok_iff hc).1 hs)
    have hjson := hwritten.denotes_iff
    have hdenotes := hwritten.denotes
    rw [has_isDigitless] at hjson hdenotes
    rw [json_toValue] at hdenotes
    exact ⟨hwritten.inLine, hjson, hdenotes⟩

/-- Plain data in a context with an infinite double: there is a line, but it is JSON only without the context. -/
theorem json_of_structuredLine_without_context :
    let c : Context := { extra := [(.str "ratio", .float (Float.ofBits 0x7FF0000000000000))] }
    let e : Entry :=
      { record := ⟨Level.info, "services.status_service", "Propagated", .map [(.str "channels", .list [.int 3, .null])]⟩
        origin := ⟨"/app/status_service.py", 7, some "reconcile"⟩ }
    c.IsPlain ∧ e.record.extra.IsPlain ∧
    (∃ s, structuredLine {} default c e = .ok s ∧ ¬ ∃ j, Denotes s.toList j) ∧
    ∃ s j, structuredLine { context := false } default c e = .ok s ∧ Denotes s.toList j := by
  intro c e
  have hc : c.IsPlain := ⟨fun _ => .null, .map (by simp [c]) (by simpa [c] using .float _)⟩
  have he : e.record.extra.IsPlain := .map (by simp) (by simpa using .list (by simpa using ⟨.int 3, .null⟩))
  have hcontext : c.entries = c.extra := rfl
  have hinfinite : isFinite (Float.ofBits 0x7FF0000000000000) = false := by decide
  have hdigits : (Nat.toDigits 10 3).length ≤ mostDigits ∧ (Nat.toDigits 10 7).length ≤ mostDigits := by decide
  have hshort : ∀ o, ¬ TakesOver IsLong o c e := by
    simp [TakesOver, hcontext, has_map, has_list, IsLong, c, e, hdigits]
  refine ⟨hc, he, ?_, ?_⟩
  · obtain ⟨hreturns, hline, -⟩ := json_of_structuredLine {} default hc he
    obtain ⟨s, hs⟩ := hreturns.2 (hshort {})
    have hratio : TakesOver IsDigitless {} c e := by
      simp [TakesOver, hcontext, has_map, IsDigitless, c, hinfinite]
    exact ⟨s, hs, fun hjson => (hline s hs).2.1.1 hjson hratio⟩
  · obtain ⟨hreturns, hline, -⟩ := json_of_structuredLine { context := false } default hc he
    obtain ⟨s, hs⟩ := hreturns.2 (hshort _)
    have hfinite : ¬ TakesOver IsDigitless { context := false } c e := by
      simp [TakesOver, has_map, has_list, IsDigitless, e]
    exact ⟨s, _, hs, (hline s hs).2.2 hfinite⟩

/-- A ratio that is infinite is written as a word, and the line is no JSON. -/
theorem no_json_with_infinite_ratio :
    let e : Entry :=
      { record := ⟨Level.info, "services.status_service", "Propagated",
          .map [(.str "ratio", .float (Float.ofBits 0x7FF0000000000000))]⟩
        origin := ⟨"/app/status_service.py", 7, some "reconcile"⟩ }
    e.record.extra.IsPlain ∧ ∃ s, structuredLine {} default {} e = .ok s ∧ ¬ ∃ j, Denotes s.toList j := by
  intro e
  have he : e.record.extra.IsPlain := .map (by simp) (by simpa using .float _)
  have hc : Context.IsPlain {} := ⟨fun _ => .null, .map nofun nofun⟩
  have hplain : (structuredFields {} default {} e).toValue.IsPlain :=
    isPlain_toValue (isPlain_structuredFields hc he)
  have hcontext : Context.entries {} = [] := rfl
  have hinfinite : isFinite (Float.ofBits 0x7FF0000000000000) = false := by decide
  have hdigits : (Nat.toDigits 10 7).length ≤ mostDigits := by decide
  have hshort : ¬ TakesOver IsLong {} {} e := by
    simp [TakesOver, hcontext, has_map, IsLong, e, hdigits]
  have hratio : TakesOver IsDigitless {} {} e := by
    simp [TakesOver, has_map, IsDigitless, e, Value.isSome, expose, hinfinite]
  obtain ⟨s, hs⟩ := (exists_jsonIn_iff hplain).2 fun hlong => hshort (has_isLong.1 hlong)
  have hwritten : Written (structuredFields {} default {} e).toValue s := written_jsonIn hplain hs
  exact ⟨he, s, (structuredLine_eq_ok_iff hc).2 hs, fun hjson => hwritten.denotes_iff.1 hjson (has_isDigitless.2 hratio)⟩

end Log

end Readiness
