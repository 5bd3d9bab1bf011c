import Readiness.Value.Basic

/-!
# Look-ups in mappings

Keys of different kinds can be one key: a number is one key by its amount, a point in time by its instant. Whether two
values are one key is said by their class (`sameKey_iff`), and so it is an equivalence. Setting an entry changes the
look-up of that key alone (`at?_put`), and merging lets the entries on the right win (`at?_merge`).
-/
namespace Readiness

open Calendar Number

namespace Value

/-- What a key is compared by. -/
inductive KeyClass
  | number (amount : Rat)
  | instant (placed : Bool) (microseconds : Int)
  | other (v : Value)

/-- Microseconds from 1970: in universal time if the offset is known, and otherwise on its own clock. -/
def instantOf (t : DateTime) : Int := t.localMicroseconds - (t.offset.elim 0 (·.minutes)) * 60000000

def keyClass (v : Value) : KeyClass :=
  match v.keyNumber? with
  | some (n, d) => .number (mkRat n d)
  | none =>
    match v with
    | .datetime t => .instant t.offset.isSome (instantOf t)
    | v => .other v

theorem den_ne_zero_of_keyNumber? {v : Value} {n : Int} {d : Nat} (h : v.keyNumber? = some (n, d)) : d ≠ 0 := by
  unfold keyNumber? at h
  split at h
  · cases h
    decide
  · cases h
    decide
  · split at h
    · cases h
      simp
    · simp at h
  · simp at h

theorem sameInstant_iff {s t : DateTime} :
    s.sameInstant t = true ↔ s.offset.isSome = t.offset.isSome ∧ instantOf s = instantOf t := by
  unfold DateTime.sameInstant instantOf
  cases s.offset <;> cases t.offset <;> simp

theorem sameKey_iff {a b : Value} : a.sameKey b = true ↔ a.keyClass = b.keyClass := by
  unfold sameKey keyClass
  cases ha : a.keyNumber? with
  | some x =>
    obtain ⟨n, d⟩ := x
    cases hb : b.keyNumber? with
    | some y =>
      obtain ⟨n', d'⟩ := y
      simp [Rat.mkRat_eq_iff (den_ne_zero_of_keyNumber? ha) (den_ne_zero_of_keyNumber? hb)]
    | none => cases b <;> simp
  | none =>
    cases hb : b.keyNumber? with
    | some y => cases a <;> simp
    | none => cases a <;> cases b <;> simp [sameInstant_iff]

@[simp] theorem sameKey_self (a : Value) : a.sameKey a = true := sameKey_iff.2 rfl

/-- Two values that are one key are the same key for every third. -/
theorem sameKey_congr {a b : Value} (h : a.sameKey b = true) (c : Value) : a.sameKey c = b.sameKey c := by
  rw [Bool.eq_iff_iff, sameKey_iff, sameKey_iff, sameKey_iff.1 h]

theorem sameKey_comm (a b : Value) : a.sameKey b = b.sameKey a := by
  rw [Bool.eq_iff_iff, sameKey_iff, sameKey_iff, eq_comm]

/-- A text is no key but itself. -/
@[simp] theorem sameKey_str (v : Value) (t : Text) : v.sameKey (.str t) = decide (v = .str t) := by
  have htext : (Value.str t).keyNumber? = none := rfl
  cases h : v.keyNumber? with
  | some x =>
    have hv : v ≠ .str t := by
      rintro rfl
      simp [htext] at h
    simp [sameKey, h, htext, hv]
  | none => cases v <;> simp [sameKey, h, htext]

end Value

namespace Entries

open Value

/-! ## One key -/

/-- The value of a key, whatever its kind. -/
def at? (es : Entries) (k : Value) : Option Value := (es.find? fun e => e.1.sameKey k).map Prod.snd

@[simp] theorem at?_nil (k : Value) : at? [] k = none := rfl

theorem at?_cons (l w : Value) (es : Entries) (k : Value) :
    at? ((l, w) :: es) k = if l.sameKey k = true then some w else es.at? k := by
  by_cases h : l.sameKey k = true <;> simp [at?, h]

theorem get?_eq_at? (es : Entries) (name : Text) : es.get? name = es.at? (.str name) := by
  simp [get?, at?]

/-- Setting an entry changes the look-up of its key alone. -/
theorem at?_put (k v : Value) (es : Entries) (k' : Value) :
    (es.put k v).at? k' = if k.sameKey k' = true then some v else es.at? k' := by
  induction es with
  | nil => simp [put, at?_cons]
  | cons e es ih =>
    obtain ⟨l, w⟩ := e
    by_cases hl : l.sameKey k = true
    · rw [put, if_pos hl, at?_cons, at?_cons, sameKey_congr hl]
      split <;> rfl
    · rw [put, if_neg hl, at?_cons, at?_cons, ih]
      by_cases hk : k.sameKey k' = true
      · have hlk' : ¬ l.sameKey k' = true := by rwa [sameKey_comm, ← sameKey_congr hk, sameKey_comm]
        simp [hk, hlk']
      · simp [hk]

/-! ## Several entries -/

theorem merge_cons (es : Entries) (e : Value × Value) (more : Entries) :
    es.merge (e :: more) = (es.put e.1 e.2).merge more := rfl

/-- In a merge the entries on the right win, the last one of a key before the others. -/
theorem at?_merge (es more : Entries) (k : Value) : (es.merge more).at? k = ((ofList more).at? k).or (es.at? k) := by
  induction more generalizing es with
  | nil => simp [merge, ofList]
  | cons e more ih =>
    have hlist : ofList (e :: more) = merge [e] more := rfl
    rw [merge_cons, ih, hlist, ih [e], at?_put, at?_cons, at?_nil]
    cases (ofList more).at? k with
    | some v => rfl
    | none => by_cases h : e.1.sameKey k = true <;> simp [h]

/-- No key is there twice, as in every mapping. -/
def Unique (es : Entries) : Prop := es.Pairwise fun e e' => e.1.sameKey e'.1 = false

theorem mem_keys_put {k v : Value} {es : Entries} {e : Value × Value} (h : e ∈ es.put k v) :
    e.1 = k ∨ ∃ e' ∈ es, e.1 = e'.1 := by
  induction es with
  | nil =>
    rw [put, List.mem_singleton] at h
    exact .inl (congrArg Prod.fst h)
  | cons f es ih =>
    obtain ⟨l, w⟩ := f
    rw [put] at h
    split at h
    · rcases List.mem_cons.1 h with rfl | h
      · exact .inr ⟨_, List.mem_cons_self, rfl⟩
      · exact .inr ⟨e, List.mem_cons_of_mem _ h, rfl⟩
    · rcases List.mem_cons.1 h with rfl | h
      · exact .inr ⟨_, List.mem_cons_self, rfl⟩
      · rcases ih h with hk | ⟨e', he', hkey⟩
        · exact .inl hk
        · exact .inr ⟨e', List.mem_cons_of_mem _ he', hkey⟩

theorem Unique.put {es : Entries} (h : es.Unique) (k v : Value) : (es.put k v).Unique := by
  induction es with
  | nil => exact List.pairwise_singleton _ _
  | cons e es ih =>
    obtain ⟨l, w⟩ := e
    obtain ⟨hhead, htail⟩ := List.pairwise_cons.1 h
    rw [Entries.put]
    split
    · exact List.pairwise_cons.2 ⟨hhead, htail⟩
    · rename_i hl
      refine List.pairwise_cons.2 ⟨fun e' he' => ?_, ih htail⟩
      rcases mem_keys_put he' with hk | ⟨e'', he'', hkey⟩
      · rw [hk]
        simpa using hl
      · rw [hkey]
        exact hhead e'' he''

theorem Unique.merge {es : Entries} (h : es.Unique) (more : Entries) : (es.merge more).Unique := by
  induction more generalizing es with
  | nil => exact h
  | cons e more ih => exact ih (h.put e.1 e.2)

theorem put_of_new {es : Entries} {k v : Value} (h : ∀ e ∈ es, e.1.sameKey k = false) : es.put k v = es ++ [(k, v)] := by
  induction es with
  | nil => rfl
  | cons e es ih =>
    obtain ⟨l, w⟩ := e
    rw [Entries.put, if_neg (by simp [h (l, w) List.mem_cons_self]), ih fun e he => h e (List.mem_cons_of_mem _ he)]
    rfl

theorem merge_of_unique {es more : Entries} (h : (es ++ more).Unique) : es.merge more = es ++ more := by
  induction more generalizing es with
  | nil => simp [merge]
  | cons e more ih =>
    have hnew : ∀ e' ∈ es, e'.1.sameKey e.1 = false := fun e' he' =>
      (List.pairwise_append.1 h).2.2 e' he' e List.mem_cons_self
    rw [merge_cons, put_of_new hnew, ih (by simpa using h), List.append_assoc]
    rfl

/-- A mapping is what its entries make. -/
theorem ofList_of_unique {es : Entries} (h : es.Unique) : ofList es = es := @merge_of_unique [] es h

end Entries

end Readiness
