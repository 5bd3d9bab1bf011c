import Mathlib.Data.List.Perm.Subperm
import Mathlib.Data.Nat.Find
import Readiness.Value.Copy

/-!
# What can be copied

A value has a copy exactly if it comes to an end and there is no handle in it (`copied_eq_ok_iff`). What it means to come
to an end is said without fuel and trails: from each part there are only so many links to follow (`Ends`). Following
links with a trail finds this out, since an end is never reached from inside a container by way of the container itself:
of the containers on the trail, none has as few links to follow as what is met inside them (`walk_of_ends`).
-/
namespace Readiness

namespace Value

/-! ## Parts -/

/-- The parts of a container. -/
def parts : Value → List Value
  | .list xs | .tuple xs | .set xs => xs
  | .map es => es.flatMap fun e => [e.1, e.2]
  | _ => []

/-- The value stands for itself: it is no handle, and nothing that stands for a container of a group. -/
def IsDirect : Value → Prop
  | .handle .. | .loop .. | .link _ => False
  | _ => True

/-- On every way from a value inwards there are at most `n` links of its group, whose containers are `cells`, and no
handle at all. -/
inductive Ends : Nat → List Value → Value → Prop
  | direct {n cells v} (hv : v.IsDirect) (h : ∀ w ∈ v.parts, Ends n cells w) : Ends n cells v
  | link {n cells i w} (hw : cells[i]? = some w) (h : Ends n cells w) : Ends (n + 1) cells (.link i)
  | loop {n cells m group i w} (hw : group[i]? = some w) (h : Ends m group w) : Ends n cells (.loop group i)

variable {v w : Value} {n m i : Nat} {cells : List Value} {link : Nat → Except Uncopied Unit}

theorem Ends.mono (h : Ends n cells v) (hm : n ≤ m) : Ends m cells v := by
  induction h generalizing m with
  | direct hv _ ih => exact .direct hv fun w hw => ih w hw hm
  | link hw _ ih =>
    obtain ⟨k, rfl⟩ := Nat.exists_eq_add_of_le' hm
    exact .link hw (ih (Nat.le_add_left _ _))
  | loop hw h _ => exact .loop hw h

theorem not_ends_handle {kind display : String} : ¬ Ends n cells (.handle kind display) := fun h => by
  cases h with
  | direct hv => exact hv

theorem ends_of_link (h : Ends n cells (.link i)) : ∃ k w, n = k + 1 ∧ cells[i]? = some w ∧ Ends k cells w := by
  cases h with
  | direct hv => exact hv.elim
  | link hw h => exact ⟨_, _, rfl, hw, h⟩

theorem ends_loop_iff {group : List Value} : Ends n cells (.loop group i) ↔ ∃ m, Ends m group (.link i) := by
  constructor
  · intro h
    cases h with
    | direct hv => exact hv.elim
    | loop hw h => exact ⟨_, .link hw h⟩
  · rintro ⟨m, h⟩
    obtain ⟨k, w, -, hw, h⟩ := ends_of_link h
    exact .loop hw h

theorem ends_direct_iff (hv : v.IsDirect) : Ends n cells v ↔ ∀ w ∈ v.parts, Ends n cells w := by
  refine ⟨fun h => ?_, .direct hv⟩
  cases h with
  | direct _ h => exact h
  | link | loop => exact hv.elim

theorem sizeOf_lt_of_mem_parts (h : w ∈ v.parts) : sizeOf w < sizeOf v := by
  cases v with
  | list xs | tuple xs | set xs =>
    have := List.sizeOf_lt_of_mem (show w ∈ xs from h)
    simp
    omega
  | map es =>
    obtain ⟨⟨k, x⟩, he, hw⟩ := List.mem_flatMap.1 h
    have := List.sizeOf_lt_of_mem he
    simp only [List.mem_cons, List.not_mem_nil, or_false] at hw
    simp at this ⊢
    rcases hw with rfl | rfl <;> omega
  | _ => exact absurd h List.not_mem_nil

/-- Induction over the parts of a value, and over the containers of a group. -/
theorem induction_on_parts {P : Value → Prop} (handle : ∀ kind display, P (.handle kind display))
    (link : ∀ i, P (.link i)) (loop : ∀ group i, (∀ w ∈ group, P w) → P (.loop group i))
    (direct : ∀ v, v.IsDirect → (∀ w ∈ v.parts, P w) → P v) (v : Value) : P v := by
  induction hn : sizeOf v using Nat.strongRecOn generalizing v with
  | ind n ih =>
    by_cases hv : v.IsDirect
    · exact direct v hv fun w hw => ih _ (hn ▸ sizeOf_lt_of_mem_parts hw) w rfl
    · cases v with
      | handle kind display => exact handle kind display
      | link i => exact link i
      | loop group i =>
        refine loop group i fun w hw => ih _ ?_ w rfl
        have := List.sizeOf_lt_of_mem hw
        simp at hn
        omega
      | _ => exact absurd trivial hv

/-! ## Copies of parts -/

theorem copyItems_eq_ok_iff {xs : List Value} : copyItems link xs = .ok () ↔ ∀ x ∈ xs, copyIn link x = .ok () := by
  induction xs with
  | nil => simp [copyItems]
  | cons x xs ih =>
    rw [List.forall_mem_cons, ← ih, copyItems]
    cases copyIn link x <;> simp [bind, Except.bind]

theorem copyEntries_eq_ok_iff {es : Entries} :
    copyEntries link es = .ok () ↔ ∀ e ∈ es, copyIn link e.1 = .ok () ∧ copyIn link e.2 = .ok () := by
  induction es with
  | nil => simp [copyEntries]
  | cons e es ih =>
    rw [List.forall_mem_cons, ← ih, copyEntries]
    cases copyIn link e.1 <;> cases copyIn link e.2 <;> simp [bind, Except.bind]

theorem copyIn_direct_iff (hv : v.IsDirect) : copyIn link v = .ok () ↔ ∀ w ∈ v.parts, copyIn link w = .ok () := by
  cases v with
  | list xs | tuple xs | set xs => exact copyItems_eq_ok_iff
  | map es =>
    show copyEntries link es = .ok () ↔ _
    rw [copyEntries_eq_ok_iff, parts, List.forall_mem_flatMap]
    simp
  | handle | loop | link => exact hv.elim
  | _ => simp [copyIn, parts]

theorem copyCells_eq (cells : List Value) : copyCells cells = cells.map fun v link => copyIn link v := by
  induction cells with
  | nil => rfl
  | cons v vs ih => rw [copyCells, ih, List.map_cons]

/-- One step along a link that is not on the trail. -/
theorem walk_copyCells {again : Nat → Except Uncopied Unit} {fuel : Nat} {trail : List Nat} (hi : i ∉ trail)
    (hw : cells[i]? = some w) : walk (copyCells cells) again (fuel + 1) trail i =
      copyIn (walk (copyCells cells) again fuel (i :: trail)) w := by
  rw [walk, if_neg hi, copyCells_eq, List.getElem?_map, hw]
  rfl

/-! ## Ends and copies -/

/-- Following links as far as there is fuel: what is copied so comes to an end. -/
theorem ends_of_walk (hcells : ∀ w ∈ cells, ∀ {n link}, (∀ j, link j = .ok () → Ends n cells (.link j)) →
      copyIn link w = .ok () → Ends n cells w) (fuel : Nat) (trail : List Nat) (i : Nat)
    (h : walk (copyCells cells) (fun _ => .error .endless) fuel trail i = .ok ()) : Ends fuel cells (.link i) := by
  induction fuel generalizing trail i with
  | zero => simp [walk] at h
  | succ fuel ih =>
    by_cases hi : i ∈ trail
    · simp [walk, hi] at h
    · cases hw : cells[i]? with
      | none => simp [walk, hi, copyCells_eq, hw] at h
      | some w =>
        rw [walk_copyCells hi hw] at h
        exact .link hw (hcells w (List.mem_of_getElem? hw) (ih (i :: trail)) h)

/-- The containers on a trail have more links to follow than what is met inside them, so that none of these is on the
trail, and there is fuel for each. -/
theorem walk_of_ends (hcells : ∀ w ∈ cells, ∀ {n link}, (∀ j, Ends n cells (.link j) → link j = .ok ()) →
      Ends n cells w → copyIn link w = .ok ()) {n fuel : Nat} {trail : List Nat} {i : Nat} (h : Ends n cells (.link i))
    (htrail : ∀ t ∈ trail, t < cells.length ∧ ¬ Ends n cells (.link t)) (hnodup : trail.Nodup)
    (hfuel : cells.length < fuel + trail.length) :
    walk (copyCells cells) (fun _ => .error .endless) fuel trail i = .ok () := by
  induction n using Nat.strongRecOn generalizing fuel trail i with
  | ind n ih =>
    obtain ⟨k, ⟨hk, hend⟩, hleast⟩ : ∃ k, (k ≤ n ∧ Ends k cells (.link i)) ∧ ∀ m < k, ¬ Ends m cells (.link i) := by
      classical
      have hex : ∃ k, k ≤ n ∧ Ends k cells (.link i) := ⟨n, le_rfl, h⟩
      refine ⟨Nat.find hex, Nat.find_spec hex, fun m hm hends => Nat.find_min hex hm ⟨?_, hends⟩⟩
      exact Nat.le_trans (Nat.le_of_lt hm) (Nat.find_spec hex).1
    obtain ⟨k, w, rfl, hw, hend'⟩ := ends_of_link hend
    have hi : i ∉ trail := fun hmem => (htrail i hmem).2 h
    have hlt : i < cells.length := (List.getElem?_eq_some_iff.1 hw).1
    have hnodup' : (i :: trail).Nodup := List.nodup_cons.2 ⟨hi, hnodup⟩
    have htrail' : ∀ t ∈ i :: trail, t < cells.length ∧ ¬ Ends k cells (.link t) := by
      refine List.forall_mem_cons.2
        ⟨⟨hlt, hleast k (Nat.lt_succ_self k)⟩, fun t ht => ⟨(htrail t ht).1, fun hends => ?_⟩⟩
      exact (htrail t ht).2 (hends.mono (by omega))
    have hroom : (i :: trail).length ≤ cells.length := by
      have hsub : i :: trail ⊆ List.range cells.length := fun t ht => List.mem_range.2 (htrail' t ht).1
      simpa using (hnodup'.subperm hsub).length_le
    rw [List.length_cons] at hroom
    obtain ⟨fuel, rfl⟩ : ∃ f, fuel = f + 1 := ⟨fuel - 1, by omega⟩
    rw [walk_copyCells hi hw]
    refine hcells w (List.mem_of_getElem? hw) (fun j hj => ?_) hend'
    exact ih k (by omega) hj htrail' hnodup' (by rw [List.length_cons]; omega)

/-- What is copied comes to an end, if what links stand for does. -/
theorem ends_of_copyIn (v : Value) : ∀ {n cells link}, (∀ j, link j = .ok () → Ends n cells (.link j)) →
    copyIn link v = .ok () → Ends n cells v := by
  induction v using induction_on_parts with
  | handle kind display => exact fun _ h => by simp [copyIn] at h
  | link i => exact fun hlink h => hlink i h
  | loop group i ih => exact fun _ h => ends_loop_iff.2 ⟨_, ends_of_walk (fun w hw => ih w hw) _ [] i h⟩
  | direct v hv ih => exact fun hlink h => .direct hv fun w hw => ih w hw hlink ((copyIn_direct_iff hv).1 h w hw)

/-- What comes to an end is copied, if what links stand for is. -/
theorem copyIn_of_ends (v : Value) : ∀ {n cells link}, (∀ j, Ends n cells (.link j) → link j = .ok ()) →
    Ends n cells v → copyIn link v = .ok () := by
  induction v using induction_on_parts with
  | handle kind display => exact fun _ h => absurd h not_ends_handle
  | link i => exact fun hlink h => hlink i h
  | loop group i ih =>
    intro _ _ _ _ h
    obtain ⟨m, hm⟩ := ends_loop_iff.1 h
    exact walk_of_ends (fun w hw => ih w hw) hm (by simp) List.nodup_nil (by simp [copyCells_eq])
  | direct v hv ih =>
    exact fun hlink h => (copyIn_direct_iff hv).2 fun w hw => ih w hw hlink ((ends_direct_iff hv).1 h w hw)

/-- The value comes to an end, and there is no handle in it. Outside of groups there are no links to follow. -/
def IsCopyable (v : Value) : Prop := Ends 0 [] v

/-- **A value has a copy, which is the value again, exactly if it comes to an end and there is no handle in it.** -/
theorem copied_eq_ok_iff {v w : Value} : v.copied = .ok w ↔ v.IsCopyable ∧ w = v := by
  have hcopy : copyIn (fun _ => .error .endless) v = .ok () ↔ v.IsCopyable := by
    refine ⟨ends_of_copyIn v (by simp), copyIn_of_ends v fun j hj => ?_⟩
    obtain ⟨_, _, hzero, _⟩ := ends_of_link hj
    simp at hzero
  rw [← hcopy]
  unfold copied
  cases copyIn (fun _ => .error .endless) v <;> simp [Except.map, eq_comm]

theorem isCopyable_of_no_parts (hv : v.IsDirect) (h : v.parts = []) : v.IsCopyable := .direct hv (by simp [h])

theorem isCopyable_list_iff {xs : List Value} : (Value.list xs).IsCopyable ↔ ∀ x ∈ xs, x.IsCopyable :=
  ends_direct_iff (v := .list xs) trivial

theorem isCopyable_map_iff {es : Entries} :
    (Value.map es).IsCopyable ↔ ∀ e ∈ es, e.1.IsCopyable ∧ e.2.IsCopyable := by
  refine (ends_direct_iff (v := .map es) trivial).trans ?_
  rw [parts, List.forall_mem_flatMap]
  simp [IsCopyable]

end Value

end Readiness
