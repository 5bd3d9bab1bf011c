import Mathlib.Data.List.Perm.Subperm
import Readiness.Manifest.Documents

/-!
# Documents without an end

Leaves are looked for as deep as `mostSteps` says. Here is that this is deep enough (`leaves?_eq_none_iff`): a document
has no leaves exactly where it goes on without an end. A document that ends has a longest way down, which an item of it
has but for one step. Where that way leaves a group, or where there is none, `mostSteps` goes down with it; and it meets
no container of a group twice, for the longest ways from there on are of different lengths.
-/
namespace Readiness.Manifest

/-- The items of a document. One that is no list has none. -/
def itemsOf (v : Value) : List Value :=
  match v.expose with
  | .map es => (listItems? es).getD []
  | _ => []

/-- A document that goes on without an end: it has an item, this one has an item, and so on. -/
def Endless (v : Value) : Prop := ∃ way : Nat → Value, way 0 = v ∧ ∀ n, way (n + 1) ∈ itemsOf (way n)

/-- A way of so many steps leads down from a document. -/
def HasWay : Nat → Value → Prop
  | 0, _ => True
  | n + 1, v => ∃ w ∈ itemsOf v, HasWay n w

/-- The longest way down from a document has so many steps. -/
def Longest (v : Value) (n : Nat) : Prop := HasWay n v ∧ ¬ HasWay (n + 1) v

variable {v w : Value} {n m : Nat}

/-! ## Ways down -/

theorem hasWay_succ : HasWay (n + 1) v ↔ ∃ w ∈ itemsOf v, HasWay n w := Iff.rfl

theorem HasWay.of_succ (h : HasWay (n + 1) v) : HasWay n v := by
  induction n generalizing v with
  | zero => trivial
  | succ n ih =>
    obtain ⟨w, hw, hway⟩ := h
    exact ⟨w, hw, ih hway⟩

theorem HasWay.of_le (h : HasWay m v) (hle : n ≤ m) : HasWay n v := by
  induction hle with
  | refl => exact h
  | step _ ih => exact ih h.of_succ

theorem mapM_eq_none_iff {α β : Type} {f : α → Option β} {xs : List α} :
    xs.mapM f = none ↔ ∃ x ∈ xs, f x = none := by
  induction xs with
  | nil => simp
  | cons x xs ih =>
    rw [List.mapM_cons, List.exists_mem_cons_iff, ← ih]
    cases f x <;> cases xs.mapM f <;> simp

theorem leavesWithin_eq_none_iff : leavesWithin n v = none ↔ HasWay n v := by
  induction n generalizing v with
  | zero => simp [leavesWithin, HasWay]
  | succ n ih =>
    rw [leavesWithin, hasWay_succ, itemsOf]
    cases v.expose with
    | map es => cases hitems : listItems? es <;> simp [hitems, mapM_eq_none_iff, ih]
    | _ => simp

theorem Endless.hasWay (h : Endless v) (n : Nat) : HasWay n v := by
  obtain ⟨way, rfl, hstep⟩ := h
  suffices hfrom : ∀ i, HasWay n (way i) from hfrom 0
  induction n with
  | zero => exact fun _ => trivial
  | succ n ih => exact fun i => ⟨way (i + 1), hstep i, ih (i + 1)⟩

/-- Of finitely many documents one has ways of every length, if for every length one has. -/
theorem exists_mem_hasWay {vs : List Value} (h : ∀ n, ∃ w ∈ vs, HasWay n w) : ∃ w ∈ vs, ∀ n, HasWay n w := by
  induction vs with
  | nil => simp at h
  | cons v vs ih =>
    by_cases hv : ∀ n, HasWay n v
    · exact ⟨v, by simp, hv⟩
    · obtain ⟨short, hshort⟩ := not_forall.1 hv
      -- No way of the first document is longer than `short`, so the longer ones are of the others.
      have hothers (n : Nat) : ∃ w ∈ vs, HasWay n w := by
        obtain ⟨w, hw, hway⟩ := h (max n short)
        obtain rfl | hw := List.mem_cons.1 hw
        · exact absurd (hway.of_le (Nat.le_max_right _ _)) hshort
        · exact ⟨w, hw, hway.of_le (Nat.le_max_left _ _)⟩
      obtain ⟨w, hw, hway⟩ := ih hothers
      exact ⟨w, by simp [hw], hway⟩

theorem endless_of_hasWay (h : ∀ n, HasWay n v) : Endless v := by
  choose next hnext hagain using fun (u : Value) (hu : ∀ n, HasWay n u) =>
    exists_mem_hasWay fun n => hasWay_succ.1 (hu (n + 1))
  let way (n : Nat) : { u : Value // ∀ n, HasWay n u } :=
    n.rec ⟨v, h⟩ fun _ u => ⟨next u.1 u.2, hagain u.1 u.2⟩
  exact ⟨fun n => (way n).1, rfl, fun n => hnext (way n).1 (way n).2⟩

/-! ## The longest way down -/

theorem Longest.unique (h : Longest v n) (h' : Longest v m) : n = m := by
  by_contra hne
  obtain hlt | hlt := Nat.lt_or_gt_of_ne hne
  · exact h.2 (h'.1.of_le hlt)
  · exact h'.2 (h.1.of_le hlt)

/-- One step down the longest way. -/
theorem Longest.exists_item (h : Longest v (n + 1)) : ∃ w ∈ itemsOf v, Longest w n := by
  obtain ⟨w, hw, hway⟩ := h.1
  exact ⟨w, hw, hway, fun hlonger => h.2 ⟨w, hw, hlonger⟩⟩

theorem exists_longest (h : ¬ Endless v) : ∃ n, Longest v n := by
  by_contra hnone
  refine h (endless_of_hasWay fun n => ?_)
  induction n with
  | zero => trivial
  | succ n ih => exact by_contra fun hno => hnone ⟨n, ih, hno⟩

/-! ## Steps and items -/

variable {cells xs items : List Value} {es : Entries} {x : Value} {i : Nat}

theorem mostSteps_le_stepsOfAll (h : x ∈ xs) : mostSteps x ≤ stepsOfAll xs := by
  induction h with
  | head xs => exact Nat.le_max_left _ _
  | tail _ _ ih => exact Nat.le_trans ih (Nat.le_max_right _ _)

theorem stepsOfItems_of_get? (h : es.get? "items" = some x) : stepsOfItems es = stepsOfItems [(.str "items", x)] := by
  induction es with
  | nil => simp [Entries.get?] at h
  | cons e es ih =>
    obtain ⟨k, y⟩ := e
    by_cases hk : k = .str "items"
    · obtain rfl : y = x := by simpa [Entries.get?, hk] using h
      cases y <;> simp [stepsOfItems, hk]
    · have htail : stepsOfItems ((k, y) :: es) = stepsOfItems es := by cases y <;> simp [stepsOfItems, hk]
      rw [htail]
      exact ih (by simpa [Entries.get?, hk] using h)

theorem stepsOfAll_le_stepsOfCells (h : .list xs ∈ cells) : stepsOfAll xs ≤ stepsOfCells cells := by
  induction cells with
  | nil => simp at h
  | cons c cells ih =>
    obtain rfl | hmem := List.mem_cons.1 h
    · exact Nat.le_max_left _ _
    · cases c <;> exact Nat.le_trans (ih hmem) (Nat.le_max_right _ _)

theorem mostSteps_map_le_stepsOfCells (h : .map es ∈ cells) : mostSteps (.map es) ≤ stepsOfCells cells := by
  induction cells with
  | nil => simp at h
  | cons c cells ih =>
    obtain rfl | hmem := List.mem_cons.1 h
    · exact Nat.le_max_left _ _
    · cases c <;> exact Nat.le_trans (ih hmem) (Nat.le_max_right _ _)

theorem listItems?_eq_some_iff : listItems? es = some items ↔
    isListKind es = true ∧ ∃ x, es.get? "items" = some x ∧ x.expose = .list items := by
  unfold listItems?
  cases es.get? "items" with
  | none => simp
  | some x => cases hx : x.expose <;> simp [hx, and_comm]

theorem mem_itemsOf_iff : w ∈ itemsOf v ↔ ∃ es items, v.expose = .map es ∧ listItems? es = some items ∧ w ∈ items := by
  unfold itemsOf
  cases v.expose with
  | map es => cases hitems : listItems? es <;> simp [hitems]
  | _ => simp

/-! ### Groups -/

/-- A container of a group. -/
def InGroup (cells : List Value) (v : Value) : Prop := ∃ i, v = .loop cells i

theorem expose_loop_eq_list (h : (Value.loop cells i).expose = .list items) :
    ∃ xs, .list xs ∈ cells ∧ items = xs.map (Value.relinkItem (.loop cells)) := by
  rw [Value.expose, List.getD_eq_getElem?_getD] at h
  cases hcell : cells[i]? with
  | none => simp [hcell, Value.relink] at h
  | some c =>
    cases c with
    | list xs => exact ⟨xs, List.mem_of_getElem? hcell, by simpa [hcell, Value.relink, eq_comm] using h⟩
    | _ => simp [hcell, Value.relink] at h

theorem expose_loop_eq_map (h : (Value.loop cells i).expose = .map es) : i < cells.length ∧
    ∃ inner, .map inner ∈ cells ∧ es = inner.map fun e => (e.1, Value.relinkOne (.loop cells) e.2) := by
  rw [Value.expose, List.getD_eq_getElem?_getD] at h
  cases hcell : cells[i]? with
  | none => simp [hcell, Value.relink] at h
  | some c =>
    refine ⟨(List.getElem?_eq_some_iff.1 hcell).1, ?_⟩
    cases c with
    | map inner => exact ⟨inner, List.mem_of_getElem? hcell, by simpa [hcell, Value.relink, eq_comm] using h⟩
    | _ => simp [hcell, Value.relink] at h

/-- An item of a container of a group is in the group, or it takes no more steps than any that is not. -/
theorem inGroup_or_le_of_mem (hcell : .list xs ∈ cells) (hx : x ∈ xs) :
    InGroup cells (Value.relinkItem (.loop cells) x) ∨
      mostSteps (Value.relinkItem (.loop cells) x) ≤ stepsOfCells cells := by
  have hle := Nat.le_trans (mostSteps_le_stepsOfAll hx) (stepsOfAll_le_stepsOfCells hcell)
  cases x with
  | link j => exact Or.inl ⟨j, rfl⟩
  | tuple ys => exact Or.inr (by simp [Value.relinkItem, mostSteps])
  | _ => exact Or.inr hle

theorem InGroup.mostSteps_eq (h : InGroup cells v) : mostSteps v = stepsOfCells cells + cells.length := by
  obtain ⟨i, rfl⟩ := h
  rw [mostSteps]

theorem mostSteps_le_of_expose (h : x.expose = .list items) (hw : w ∈ items) :
    mostSteps w ≤ stepsOfItems [(.str "items", x)] := by
  cases x with
  | list xs =>
    obtain rfl : xs = items := by simpa [Value.expose] using h
    simpa [stepsOfItems] using mostSteps_le_stepsOfAll hw
  | loop cells i =>
    obtain ⟨xs, hcell, rfl⟩ := expose_loop_eq_list h
    obtain ⟨y, hy, rfl⟩ := List.mem_map.1 hw
    have hloop : stepsOfItems [(.str "items", .loop cells i)] = stepsOfCells cells + cells.length := by
      simp [stepsOfItems, mostSteps]
    obtain hin | hle := inGroup_or_le_of_mem hcell hy
    · exact Nat.le_of_eq (hin.mostSteps_eq.trans hloop.symm)
    · omega
  | _ => simp [Value.expose] at h

/-- An item takes fewer steps than its mapping. -/
theorem mostSteps_lt_of_listItems (h : listItems? es = some items) (hw : w ∈ items) :
    mostSteps w < mostSteps (.map es) := by
  obtain ⟨hkind, x, hx, hexpose⟩ := listItems?_eq_some_iff.1 h
  rw [mostSteps, if_pos hkind, stepsOfItems_of_get? hx]
  exact Nat.lt_succ_of_le (mostSteps_le_of_expose hexpose hw)

theorem get?_map_relinkOne (f : Nat → Value) (name : Text) :
    Entries.get? (es.map fun e => (e.1, Value.relinkOne f e.2)) name = (es.get? name).map (Value.relinkOne f) := by
  simp [Entries.get?, List.find?_map, Function.comp_def]

/-- The kind of a mapping in a group is not behind a link. -/
theorem isListKind_map_relinkOne :
    isListKind (es.map fun e => (e.1, Value.relinkOne (.loop cells) e.2)) = isListKind es := by
  rw [isListKind, isListKind, get?_map_relinkOne]
  cases es.get? "kind" with
  | none => rfl
  | some x => cases x <;> rfl

/-- One step down from a container of a group stays in the group, or leaves it for good. -/
theorem inGroup_or_le_of_mem_itemsOf (h : w ∈ itemsOf (.loop cells i)) :
    InGroup cells w ∨ mostSteps w ≤ stepsOfCells cells := by
  obtain ⟨es, items, hexpose, hitems, hw⟩ := mem_itemsOf_iff.1 h
  obtain ⟨-, inner, hcell, rfl⟩ := expose_loop_eq_map hexpose
  obtain ⟨hkind, x, hx, hlist⟩ := listItems?_eq_some_iff.1 hitems
  rw [isListKind_map_relinkOne] at hkind
  rw [get?_map_relinkOne] at hx
  obtain ⟨y, hy, rfl⟩ := Option.map_eq_some_iff.1 hx
  by_cases hlink : ∃ j, y = .link j
  · obtain ⟨j, rfl⟩ := hlink
    obtain ⟨xs, hlistCell, rfl⟩ := expose_loop_eq_list hlist
    obtain ⟨z, hz, rfl⟩ := List.mem_map.1 hw
    exact inGroup_or_le_of_mem hlistCell hz
  · have hplain : Value.relinkOne (.loop cells) y = y := by
      cases y <;> simp_all [Value.relinkOne]
    have hinner : listItems? inner = some items := listItems?_eq_some_iff.2 ⟨hkind, y, hy, hplain ▸ hlist⟩
    have hlt := mostSteps_lt_of_listItems hinner hw
    exact Or.inr (Nat.le_trans (Nat.le_of_lt hlt) (mostSteps_map_le_stepsOfCells hcell))

theorem lt_length_of_mem_itemsOf (h : w ∈ itemsOf (.loop cells i)) : i < cells.length := by
  obtain ⟨es, items, hexpose, -⟩ := mem_itemsOf_iff.1 h
  exact (expose_loop_eq_map hexpose).1

/-! ## How deep is deep enough -/

/-- The containers of a group that are met on the longest way down from one of them. -/
theorem exists_met_of_longest (hshorter : ∀ m < n, ∀ w, Longest w m → m ≤ mostSteps w)
    (h : Longest (.loop cells i) n) : ∃ met : List Nat, met.Nodup ∧ n ≤ stepsOfCells cells + met.length ∧
      ∀ j ∈ met, j < cells.length ∧ ∃ m ≤ n, Longest (.loop cells j) m := by
  induction n generalizing i with
  | zero => exact ⟨[], by simp⟩
  | succ n ih =>
    obtain ⟨w, hw, hlongest⟩ := h.exists_item
    have hi : i < cells.length := lt_length_of_mem_itemsOf hw
    obtain ⟨j, rfl⟩ | hle := inGroup_or_le_of_mem_itemsOf hw
    · obtain ⟨met, hnodup, hn, hmet⟩ := ih (fun m hm => hshorter m (by omega)) hlongest
      -- The longest way from `i` on is longer than those from the containers below it.
      have hnew : i ∉ met := fun hmem => by
        obtain ⟨-, m, hm, hagain⟩ := hmet i hmem
        have := h.unique hagain
        omega
      refine ⟨i :: met, List.nodup_cons.2 ⟨hnew, hnodup⟩, by simp only [List.length_cons]; omega, fun k hk => ?_⟩
      obtain rfl | hk := List.mem_cons.1 hk
      · exact ⟨hi, n + 1, Nat.le_refl _, h⟩
      · obtain ⟨hlt, m, hm, hlong⟩ := hmet k hk
        exact ⟨hlt, m, by omega, hlong⟩
    · have hn := hshorter n (by omega) w hlongest
      exact ⟨[i], by simp, by simp only [List.length_singleton]; omega, by simpa using ⟨hi, n + 1, by omega, h⟩⟩

theorem Longest.le_mostSteps (h : Longest v n) : n ≤ mostSteps v := by
  induction n using Nat.strongRecOn generalizing v with
  | ind n ih =>
    cases n with
    | zero => exact Nat.zero_le _
    | succ n =>
      obtain ⟨w, hw, hlongest⟩ := h.exists_item
      obtain ⟨es, items, hexpose, hitems, hmem⟩ := mem_itemsOf_iff.1 hw
      cases v with
      | map es' =>
        obtain rfl : es' = es := by simpa [Value.expose] using hexpose
        exact Nat.lt_of_le_of_lt (ih n (by omega) hlongest) (mostSteps_lt_of_listItems hitems hmem)
      | loop cells i =>
        obtain ⟨met, hnodup, hn, hmet⟩ := exists_met_of_longest (fun m hm w hw => ih m hm hw) h
        have hsub : met ⊆ List.range cells.length := fun j hj => List.mem_range.2 (hmet j hj).1
        have hlength := (List.subperm_of_subset hnodup hsub).length_le
        rw [List.length_range] at hlength
        rw [mostSteps]
        omega
      | _ => simp [Value.expose] at hexpose

theorem Endless.exists_expose (h : Endless v) : ∃ es, v.expose = .map es := by
  obtain ⟨w, hw, -⟩ := h.hasWay 1
  obtain ⟨es, items, hexpose, -⟩ := mem_itemsOf_iff.1 hw
  exact ⟨es, hexpose⟩

/-- **A document has no leaves exactly where it goes on without an end.** -/
theorem leaves?_eq_none_iff : leaves? v = none ↔ Endless v := by
  rw [leaves?, leavesWithin_eq_none_iff]
  constructor
  · intro h
    by_contra hend
    obtain ⟨n, hn⟩ := exists_longest hend
    exact hn.2 (h.of_le (Nat.succ_le_succ hn.le_mostSteps))
  · exact fun h => h.hasWay _

end Readiness.Manifest
