import Readiness.Condition.Basic

/-!
# Lists of conditions

What a list shows of one type are its entries of that type, in stored order; a look-up gives the first of them.
Sorting is stable, so it changes no such view, and recording a condition changes the view of its own type only.

Two shapes of lists matter later. Lists without repeated types can be read as maps (`get?_set`), and lists that are
strictly sorted are determined by what a look-up gives (`eq_of_get?`). Both shapes are kept by `set`.
-/
namespace Readiness

open Calendar

namespace Condition

theorem sameContent_iff {c d : Condition} :
    c.sameContent d = true ↔ c.type = d.type ∧ c.status = d.status ∧ c.severity = d.severity ∧
      c.reason = d.reason ∧ c.message = d.message := by
  cases c
  cases d
  simp [sameContent]

@[simp] theorem sameContent_self (c : Condition) : c.sameContent c = true := by simp [sameContent_iff]

/-- The time of the change is no content. -/
theorem sameContent_stamped (c d : Condition) (t : Option DateTime) :
    ({ c with transition := t } : Condition).sameContent d = c.sameContent d := rfl

/-- What is stored when `c` is recorded where `old` was. -/
def recorded (now : DateTime) (c : Condition) : Option Condition → Condition
  | none => { c with transition := some now.truncated }
  | some d => if c.sameContent d then d else { c with transition := some now.truncated }

theorem recorded_sameContent (now : DateTime) (c : Condition) (old : Option Condition) :
    c.sameContent (c.recorded now old) = true := by
  cases old with
  | none => simp [recorded, sameContent_iff]
  | some d =>
    by_cases h : c.sameContent d = true
    · simp [recorded, h]
    · simp only [recorded, h]
      simp [sameContent_iff]

/-- What was just recorded is not recorded again. -/
theorem recorded_again (t₁ t₂ : DateTime) (c : Condition) (old : Option Condition) :
    c.recorded t₂ (some (c.recorded t₁ old)) = c.recorded t₁ old :=
  if_pos (recorded_sameContent t₁ c old)

@[simp] theorem recorded_type (now : DateTime) (c : Condition) (old : Option Condition) :
    (c.recorded now old).type = c.type :=
  (sameContent_iff.1 (recorded_sameContent now c old)).1.symm

@[simp] theorem recorded_status (now : DateTime) (c : Condition) (old : Option Condition) :
    (c.recorded now old).status = c.status :=
  (sameContent_iff.1 (recorded_sameContent now c old)).2.1.symm

end Condition

namespace Conditions

/-! ## The entries of one type -/

def ofType (type : String) (cs : Conditions) : Conditions := cs.filter fun c => c.type.val = type

theorem mem_ofType {type : String} {cs : Conditions} {c : Condition} :
    c ∈ cs.ofType type ↔ c ∈ cs ∧ c.type.val = type := by
  simp [ofType]

theorem get?_eq_head? (type : String) (cs : Conditions) : cs.get? type = (cs.ofType type).head? := by
  rw [ofType, List.head?_filter]
  rfl

theorem ofType_eq_nil {type : String} {cs : Conditions} : cs.ofType type = [] ↔ cs.get? type = none := by
  rw [get?_eq_head?, List.head?_eq_none_iff]

theorem ofType_append (type : String) (cs ds : Conditions) :
    ofType type (cs ++ ds) = cs.ofType type ++ ds.ofType type :=
  List.filter_append cs ds

theorem ofType_perm (type : String) {cs ds : Conditions} (h : cs.Perm ds) : (cs.ofType type).Perm (ds.ofType type) :=
  h.filter _

theorem mem_of_get? {type : String} {cs : Conditions} {c : Condition} (h : cs.get? type = some c) :
    c ∈ cs :=
  List.mem_of_find?_eq_some h

theorem type_of_get? {type : String} {cs : Conditions} {c : Condition} (h : cs.get? type = some c) :
    c.type.val = type := by
  simpa using List.find?_some h

theorem ofType_insert (type : String) (c : Condition) (cs : Conditions) :
    (insert c cs).ofType type = if c.type.val = type then c :: cs.ofType type else cs.ofType type := by
  induction cs with
  | nil => by_cases h : c.type.val = type <;> simp [insert, ofType, h]
  | cons d ds ih =>
    unfold insert
    split
    · by_cases h : c.type.val = type <;> simp [ofType, h]
    · rename_i hle
      have hne : d.type.val ≠ c.type.val := by grind
      simp only [ofType, List.filter_cons] at ih ⊢
      rw [ih]
      by_cases h : c.type.val = type
      · subst h
        simp [hne]
      · simp [h]

/-- Sorting is stable: within one type nothing moves. -/
@[simp] theorem ofType_sort (type : String) (cs : Conditions) : (sort cs).ofType type = cs.ofType type := by
  induction cs with
  | nil => rfl
  | cons c cs ih =>
    rw [sort, ofType_insert, ih]
    by_cases h : c.type.val = type <;> simp [ofType, h]

theorem ofType_set_of_ne {now : DateTime} {c : Condition} {cs : Conditions} {type : String}
    (h : type ≠ c.type.val) : (cs.set now c).ofType type = cs.ofType type := by
  unfold set
  split
  · rfl
  · have hc : c.type.val ≠ type := Ne.symm h
    rw [ofType_sort]
    simp only [ofType, List.filter_append, List.filter_filter]
    rw [List.filter_cons_of_neg (by simpa using hc), List.filter_nil, List.append_nil]
    apply List.filter_congr
    intro d _
    by_cases hd : d.type.val = type
    · have : d.type ≠ c.type := fun e => hc (by rw [← e, hd])
      simp [hd, this]
    · simp [hd]

theorem ofType_set_self (now : DateTime) (c : Condition) (cs : Conditions) :
    (cs.set now c).ofType c.type.val =
      if (cs.ofType c.type.val).any c.sameContent then cs.ofType c.type.val
      else [{ c with transition := some now.truncated }] := by
  have hany : (cs.any fun d => d.type = c.type ∧ c.sameContent d) =
      (cs.ofType c.type.val).any c.sameContent := by
    rw [ofType, List.any_filter]
    congr 1
    funext d
    simp [Subtype.ext_iff]
  unfold set
  rw [hany]
  split
  · rfl
  · rw [ofType_sort]
    have hnone : ofType c.type.val (cs.filter fun d => d.type ≠ c.type) = [] := by
      rw [ofType, List.filter_filter, List.filter_eq_nil_iff]
      intro d _
      simp [Subtype.ext_iff]
    simp only [ofType, List.filter_append] at hnone ⊢
    rw [hnone]
    simp

theorem get?_set_of_ne {now : DateTime} {c : Condition} {cs : Conditions} {type : String}
    (h : type ≠ c.type.val) : (cs.set now c).get? type = cs.get? type := by
  rw [get?_eq_head?, ofType_set_of_ne h, get?_eq_head?]

/-- Nothing changes where an equal condition is stored already. -/
theorem set_eq_self {now : DateTime} {c d : Condition} {cs : Conditions} (hm : d ∈ cs)
    (hc : c.sameContent d = true) : cs.set now c = cs := by
  have htype : d.type = c.type := (Condition.sameContent_iff.1 hc).1.symm
  unfold set
  rw [if_pos (List.any_eq_true.2 ⟨d, hm, by simp [htype, hc]⟩)]

theorem get?_set_of_absent {now : DateTime} {c : Condition} {cs : Conditions}
    (h : cs.get? c.type.val = none) : (cs.set now c).get? c.type.val = some (c.recorded now none) := by
  rw [get?_eq_head?, ofType_set_self, ofType_eq_nil.2 h]
  rfl

/-- No type disappears. -/
theorem get?_set_ne_none {now : DateTime} {c : Condition} {cs : Conditions} {type : String}
    (h : cs.get? type ≠ none) : (cs.set now c).get? type ≠ none := by
  by_cases ht : type = c.type.val
  · subst ht
    rw [get?_eq_head?] at h ⊢
    rw [ofType_set_self]
    split
    · exact h
    · simp
  · rwa [get?_set_of_ne ht]

theorem get?_remove_of_ne {type removed : String} {cs : Conditions} (h : type ≠ removed) :
    (cs.remove removed).get? type = cs.get? type := by
  rw [get?, get?, remove, List.find?_filter]
  congr 1
  funext c
  by_cases hc : c.type.val = type
  · simp [hc, h]
  · simp [hc]

/-! ## Lists without repeated types -/

def Distinct (cs : Conditions) : Prop := (cs.map (·.type)).Nodup

instance (cs : Conditions) : Decidable cs.Distinct := inferInstanceAs (Decidable (List.Nodup _))

theorem distinct_nil : Distinct [] := List.nodup_nil

theorem distinct_of_nodup {cs : Conditions} (h : (cs.map (·.type.val)).Nodup) : cs.Distinct := by
  unfold Distinct
  rw [List.Nodup, List.pairwise_map] at h ⊢
  exact h.imp fun hne e => hne (congrArg _ e)

theorem Distinct.nodup {cs : Conditions} (h : cs.Distinct) : List.Nodup cs :=
  (List.pairwise_map.1 h).imp fun hne e => hne (congrArg _ e)

theorem ofType_of_distinct {cs : Conditions} (h : cs.Distinct) (type : String) :
    cs.ofType type = (cs.get? type).toList := by
  induction cs with
  | nil => rfl
  | cons c cs ih =>
    simp only [Distinct, List.map_cons, List.nodup_cons, List.mem_map, not_exists, not_and] at h
    have ih := ih h.2
    by_cases hc : c.type.val = type
    · have hnone : ofType type cs = [] := by
        rw [ofType, List.filter_eq_nil_iff]
        intro d hd
        have hne := h.1 d hd
        simp only [decide_eq_true_eq]
        exact fun e => hne (Subtype.ext (by rw [e, hc]))
      simp only [ofType, get?] at hnone ⊢
      simp [hc, hnone]
    · simp only [ofType, get?] at ih ⊢
      simp [hc, ih]

theorem get?_of_mem {cs : Conditions} {c : Condition} (h : cs.Distinct) (hc : c ∈ cs) :
    cs.get? c.type.val = some c := by
  have hmem : c ∈ cs.ofType c.type.val := mem_ofType.2 ⟨hc, rfl⟩
  rwa [ofType_of_distinct h, Option.mem_toList] at hmem

/-- On lists without repeated types, recording a condition is the update of a map. -/
theorem get?_set {now : DateTime} {c : Condition} {cs : Conditions} (h : cs.Distinct) (type : String) :
    (cs.set now c).get? type =
      if type = c.type.val then some (c.recorded now (cs.get? type)) else cs.get? type := by
  by_cases ht : type = c.type.val
  · subst ht
    rw [if_pos rfl, get?_eq_head?, ofType_set_self, ofType_of_distinct h]
    cases hd : cs.get? c.type.val with
    | none => rfl
    | some d => by_cases hc : c.sameContent d = true <;> simp [Condition.recorded, hc]
  · rw [if_neg ht, get?_set_of_ne ht]

theorem perm_insert (c : Condition) (cs : Conditions) : (insert c cs).Perm (c :: cs) := by
  induction cs with
  | nil => exact List.Perm.refl _
  | cons d ds ih =>
    unfold insert
    split
    · exact List.Perm.refl _
    · exact (ih.cons d).trans (List.Perm.swap c d ds)

theorem perm_sort (cs : Conditions) : (sort cs).Perm cs := by
  induction cs with
  | nil => exact List.Perm.refl _
  | cons c cs ih => exact (perm_insert c (sort cs)).trans (ih.cons c)

/-- Where the type is new, nothing makes way for it. -/
theorem perm_set_of_absent {now : DateTime} {c : Condition} {cs : Conditions} (h : cs.get? c.type.val = none) :
    (cs.set now c).Perm (cs ++ [c.recorded now none]) := by
  have hne : ∀ d ∈ cs, d.type ≠ c.type := by
    intro d hd e
    have := List.find?_eq_none.1 h d hd
    simp [e] at this
  unfold set
  rw [if_neg, List.filter_eq_self.2 (by simpa using hne)]
  · exact perm_sort _
  · rw [List.any_eq_true]
    rintro ⟨d, hd, hsame⟩
    simp [hne d hd] at hsame

/-- What `set` sorts has one entry of the new type. -/
theorem distinct_replaced {now : DateTime} {c : Condition} {cs : Conditions} (h : cs.Distinct) :
    Distinct (cs.filter (fun d => d.type ≠ c.type) ++ [{ c with transition := some now.truncated }]) := by
  unfold Distinct
  rw [List.map_append, List.nodup_append]
  refine ⟨h.sublist (List.filter_sublist.map _), by simp, ?_⟩
  intro a ha b hb
  simp only [List.mem_map, List.mem_filter, decide_eq_true_eq] at ha
  obtain ⟨d, ⟨_, hd⟩, rfl⟩ := ha
  simp only [List.map_cons, List.map_nil, List.mem_singleton] at hb
  rw [hb]
  exact hd

theorem distinct_set {now : DateTime} {c : Condition} {cs : Conditions} (h : cs.Distinct) :
    (cs.set now c).Distinct := by
  unfold set
  split
  · exact h
  · exact ((perm_sort _).map _).nodup_iff.2 (distinct_replaced h)

/-! ## Sorted lists -/

/-- In the order of types, without repeated ones. -/
def Sorted (cs : Conditions) : Prop := cs.Pairwise fun c d => c.type.val < d.type.val

theorem sorted_nil : Sorted [] := List.Pairwise.nil

theorem distinct_of_sorted {cs : Conditions} (h : cs.Sorted) : cs.Distinct := by
  unfold Distinct
  rw [List.Nodup, List.pairwise_map]
  refine h.imp ?_
  intro c d hlt he
  exact String.lt_irrefl _ (he ▸ hlt)

theorem sorted_insert {c : Condition} {cs : Conditions} (h : cs.Sorted) (hc : ∀ d ∈ cs, d.type ≠ c.type) :
    Sorted (insert c cs) := by
  induction cs with
  | nil => simp [insert, Sorted]
  | cons d ds ih =>
    obtain ⟨hd, hds⟩ := List.pairwise_cons.1 h
    have hne : d.type.val ≠ c.type.val := fun e => hc d (by simp) (Subtype.ext e)
    unfold insert
    split
    · rename_i hle
      refine List.pairwise_cons.2 ⟨?_, h⟩
      intro e he
      rcases List.mem_cons.1 he with rfl | he
      · grind
      · have := hd e he
        grind
    · rename_i hle
      refine List.pairwise_cons.2 ⟨?_, ih hds fun e he => hc e (List.mem_cons_of_mem _ he)⟩
      intro e he
      rcases List.mem_cons.1 ((perm_insert c ds).mem_iff.1 he) with rfl | he
      · exact String.not_le.1 hle
      · exact hd e he

theorem sorted_sort {cs : Conditions} (h : cs.Distinct) : Sorted (sort cs) := by
  induction cs with
  | nil => exact sorted_nil
  | cons c cs ih =>
    simp only [Distinct, List.map_cons, List.nodup_cons, List.mem_map, not_exists, not_and] at h
    exact sorted_insert (ih h.2) fun d hd => h.1 d ((perm_sort cs).mem_iff.1 hd)

theorem sorted_set {now : DateTime} {c : Condition} {cs : Conditions} (h : cs.Sorted) :
    (cs.set now c).Sorted := by
  unfold set
  split
  · exact h
  · exact sorted_sort (distinct_replaced (distinct_of_sorted h))

/-- Sorted lists are determined by what a look-up gives. -/
theorem eq_of_get? {cs ds : Conditions} (hc : cs.Sorted) (hd : ds.Sorted)
    (h : ∀ type, cs.get? type = ds.get? type) : cs = ds := by
  have hperm : cs.Perm ds := by
    rw [List.perm_ext_iff_of_nodup (distinct_of_sorted hc).nodup (distinct_of_sorted hd).nodup]
    intro c
    have hview : cs.ofType c.type.val = ds.ofType c.type.val := by
      rw [ofType_of_distinct (distinct_of_sorted hc), ofType_of_distinct (distinct_of_sorted hd), h]
    have hmem : ∀ es : Conditions, c ∈ es.ofType c.type.val ↔ c ∈ es := fun es => by simp [mem_ofType]
    rw [← hmem cs, ← hmem ds, hview]
  exact hperm.eq_of_pairwise (fun _ _ _ _ hlt hgt => absurd hgt (String.lt_asymm hlt)) hc hd

end Conditions

end Readiness
