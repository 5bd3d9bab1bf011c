import Mathlib.Logic.Relation
import Readiness.Proofs.Manifest.Failures

/-!
# The leaves of a stream

What loading makes of a stream of documents, said without depths: a list document stands for its items, every other
mapping for itself, and the rest for nothing (`Leaves`). The relation works on the whole stream, with the items of a list
put in its place, so that lists within lists are no case of their own and taking a stream apart or wrapping documents
into a list changes nothing (`leaves_append_iff`, `leaves_wraps_iff`).

A stream has leaves if each of its documents has an end (`exists_leaves_iff`), and then loading finds them, unless a
document is neither empty nor a mapping (`leavesOfAll_eq_ok_iff`). Lists may stand in lists to any depth here; how deep
calls may go in an interpreter is not modelled.
-/
namespace Readiness.Manifest

/-- A document that is read: an empty one or a mapping. -/
def IsDocument (v : Value) : Prop := v.expose = .null ∨ ∃ es, v.expose = .map es

/-- A mapping that stands for its items: its kind is a text that ends in `List`, and its items are a list. -/
def Expands (es : Entries) (items : List Value) : Prop :=
  (∃ stem : Text, es.get? "kind" = some (.str (stem ++ "List"))) ∧
    ∃ v, es.get? "items" = some v ∧ v.expose = .list items

/-- The leaves of a stream, from left to right. -/
inductive Leaves : List Value → List Entries → Prop
  | nil : Leaves [] []
  | drop {v vs ls} (hv : ∀ es, v.expose ≠ .map es) (h : Leaves vs ls) : Leaves (v :: vs) ls
  | keep {v vs es ls} (hv : v.expose = .map es) (hes : ∀ items, ¬ Expands es items) (h : Leaves vs ls) :
    Leaves (v :: vs) (es :: ls)
  | expand {v vs es items ls} (hv : v.expose = .map es) (hes : Expands es items) (h : Leaves (items ++ vs) ls) :
    Leaves (v :: vs) ls

/-- Documents in a row, and a list document of them in their place. -/
def Wraps (vs ws : List Value) : Prop :=
  ∃ before items after v es, vs = before ++ items ++ after ∧ ws = before ++ v :: after ∧
    v.expose = .map es ∧ Expands es items ∧ ∀ w ∈ items, IsDocument w

/-- Streams that come from one another by wrapping documents into lists and unwrapping them, in any number of steps. -/
def Regrouped : List Value → List Value → Prop := Relation.EqvGen Wraps

variable {v w : Value} {vs ws items : List Value} {es : Entries} {ls ls' docs : List Entries} {i n : Nat}

/-! ## List documents -/

theorem isListKind_iff : isListKind es = true ↔ ∃ stem : Text, es.get? "kind" = some (.str (stem ++ "List")) := by
  have hends (s : Text) : ("List" : Text).points.isSuffixOf s.points = true ↔ ∃ stem : Text, s = stem ++ "List" := by
    rw [List.isSuffixOf_iff_suffix]
    constructor
    · rintro ⟨stem, h⟩
      exact ⟨⟨stem⟩, by rw [← Text.mk.injEq] at h; exact h.symm⟩
    · rintro ⟨stem, rfl⟩
      exact ⟨stem.points, rfl⟩
  unfold isListKind
  split
  · rename_i s hs
    simp [hs, hends]
  · rename_i hno
    simp only [Bool.false_eq_true, false_iff, not_exists]
    exact fun stem h => hno _ h

theorem listItems?_eq_some_iff_expands : listItems? es = some items ↔ Expands es items := by
  rw [listItems?_eq_some_iff, isListKind_iff, Expands]

theorem listItems?_eq_none_iff : listItems? es = none ↔ ∀ items, ¬ Expands es items := by
  simp only [← listItems?_eq_some_iff_expands, Option.eq_none_iff_forall_ne_some]

theorem Expands.unique (h : Expands es items) {items' : List Value} (h' : Expands es items') : items = items' :=
  Option.some.inj ((listItems?_eq_some_iff_expands.2 h).symm.trans (listItems?_eq_some_iff_expands.2 h'))

/-! ## Streams -/

theorem Leaves.unique (h : Leaves vs ls) (h' : Leaves vs ls') : ls = ls' := by
  induction h generalizing ls' with
  | nil => cases h'; rfl
  | drop hv _ ih =>
    cases h' with
    | drop _ h' => exact ih h'
    | keep hv' => exact absurd hv' (hv _)
    | expand hv' => exact absurd hv' (hv _)
  | keep hv hes _ ih =>
    cases h' with
    | drop hv' => exact absurd hv (hv' _)
    | keep hv' _ h' =>
      obtain rfl := Value.map.inj (hv.symm.trans hv')
      rw [ih h']
    | expand hv' hes' =>
      obtain rfl := Value.map.inj (hv.symm.trans hv')
      exact absurd hes' (hes _)
  | expand hv hes _ ih =>
    cases h' with
    | drop hv' => exact absurd hv (hv' _)
    | keep hv' hes' =>
      obtain rfl := Value.map.inj (hv.symm.trans hv')
      exact absurd hes (hes' _)
    | expand hv' hes' h' =>
      obtain rfl := Value.map.inj (hv.symm.trans hv')
      obtain rfl := hes.unique hes'
      exact ih h'

theorem Leaves.append (h : Leaves vs ls) (h' : Leaves ws ls') : Leaves (vs ++ ws) (ls ++ ls') := by
  induction h with
  | nil => exact h'
  | drop hv _ ih => exact .drop hv ih
  | keep hv hes _ ih => exact .keep hv hes ih
  | expand hv hes _ ih => exact .expand hv hes (List.append_assoc _ _ ws ▸ ih)

theorem exists_of_leaves_append (h : Leaves (vs ++ ws) ls) :
    ∃ l r, Leaves vs l ∧ Leaves ws r ∧ ls = l ++ r := by
  generalize hall : vs ++ ws = all at h
  induction h generalizing vs with
  | nil =>
    obtain ⟨rfl, rfl⟩ := List.append_eq_nil_iff.1 hall
    exact ⟨[], [], .nil, .nil, rfl⟩
  | @drop v rest ls hv h ih =>
    cases vs with
    | nil => exact ⟨[], ls, .nil, by rw [List.nil_append] at hall; exact hall ▸ .drop hv h, rfl⟩
    | cons u us =>
      obtain ⟨rfl, hrest⟩ := List.cons.inj hall
      obtain ⟨l, r, hl, hr, rfl⟩ := ih hrest
      exact ⟨l, r, .drop hv hl, hr, rfl⟩
  | @keep v rest es ls hv hes h ih =>
    cases vs with
    | nil => exact ⟨[], es :: ls, .nil, by rw [List.nil_append] at hall; exact hall ▸ .keep hv hes h, rfl⟩
    | cons u us =>
      obtain ⟨rfl, hrest⟩ := List.cons.inj hall
      obtain ⟨l, r, hl, hr, rfl⟩ := ih hrest
      exact ⟨es :: l, r, .keep hv hes hl, hr, rfl⟩
  | @expand v rest es items ls hv hes h ih =>
    cases vs with
    | nil => exact ⟨[], ls, .nil, by rw [List.nil_append] at hall; exact hall ▸ .expand hv hes h, rfl⟩
    | cons u us =>
      obtain ⟨rfl, rfl⟩ := List.cons.inj hall
      -- The items go with the part that the list was in.
      obtain ⟨l, r, hl, hr, rfl⟩ := ih (List.append_assoc items us ws)
      exact ⟨l, r, .expand hv hes hl, hr, rfl⟩

theorem leaves_append_iff : Leaves (vs ++ ws) ls ↔ ∃ l r, Leaves vs l ∧ Leaves ws r ∧ ls = l ++ r := by
  refine ⟨exists_of_leaves_append, ?_⟩
  rintro ⟨l, r, hl, hr, rfl⟩
  exact hl.append hr

theorem leaves_cons_iff : Leaves (v :: ws) ls ↔ ∃ l r, Leaves [v] l ∧ Leaves ws r ∧ ls = l ++ r := by
  rw [← List.singleton_append, leaves_append_iff]

theorem leaves_drop_iff (hv : ∀ es, v.expose ≠ .map es) : Leaves (v :: vs) ls ↔ Leaves vs ls := by
  refine ⟨fun h => ?_, .drop hv⟩
  cases h with
  | drop _ h => exact h
  | keep hv' => exact absurd hv' (hv _)
  | expand hv' => exact absurd hv' (hv _)

theorem leaves_expand_iff (hv : v.expose = .map es) (hes : Expands es items) :
    Leaves (v :: vs) ls ↔ Leaves (items ++ vs) ls := by
  refine ⟨fun h => ?_, .expand hv hes⟩
  cases h with
  | drop hv' => exact absurd hv (hv' _)
  | keep hv' hes' =>
    obtain rfl := Value.map.inj (hv.symm.trans hv')
    exact absurd hes (hes' _)
  | expand hv' hes' h =>
    obtain rfl := Value.map.inj (hv.symm.trans hv')
    obtain rfl := hes.unique hes'
    exact h

/-- No leaf is a list. -/
theorem Leaves.not_expands (h : Leaves vs ls) : ∀ d ∈ ls, ∀ items, ¬ Expands d items := by
  induction h with
  | nil => simp
  | drop _ _ ih | expand _ _ _ ih => exact ih
  | keep _ hes _ ih => exact List.forall_mem_cons.2 ⟨hes, ih⟩

/-- What holds no list is its own leaves. -/
theorem leaves_of_not_expands (h : ∀ d ∈ ls, ∀ items, ¬ Expands d items) : Leaves (ls.map .map) ls := by
  induction ls with
  | nil => exact .nil
  | cons d ls ih =>
    obtain ⟨hd, hls⟩ := List.forall_mem_cons.1 h
    exact .keep rfl hd (ih hls)

theorem leaves_wraps_iff (h : Wraps vs ws) : Leaves vs ls ↔ Leaves ws ls := by
  obtain ⟨before, items, after, v, es, rfl, rfl, hv, hes, -⟩ := h
  rw [List.append_assoc, leaves_append_iff, leaves_append_iff]
  simp only [leaves_expand_iff hv hes]

/-! ## Documents that end -/

theorem Endless.exists_item (h : Endless v) : ∃ es items, v.expose = .map es ∧ Expands es items ∧ ∃ w ∈ items, Endless w := by
  obtain ⟨way, rfl, hstep⟩ := h
  obtain ⟨es, items, hes, hitems, hmem⟩ := mem_itemsOf_iff.1 (hstep 0)
  exact ⟨es, items, hes, listItems?_eq_some_iff_expands.1 hitems, way 1, hmem, fun n => way (n + 1), rfl,
    fun n => hstep (n + 1)⟩

theorem Leaves.not_endless (h : Leaves vs ls) : ∀ v ∈ vs, ¬ Endless v := by
  induction h with
  | nil => simp
  | drop hv _ ih =>
    refine List.forall_mem_cons.2 ⟨fun hend => ?_, ih⟩
    obtain ⟨es, hes⟩ := hend.exists_expose
    exact hv es hes
  | keep hv hes _ ih =>
    refine List.forall_mem_cons.2 ⟨fun hend => ?_, ih⟩
    obtain ⟨es', items, hv', hes', -⟩ := hend.exists_item
    obtain rfl := Value.map.inj (hv.symm.trans hv')
    exact hes items hes'
  | expand hv hes _ ih =>
    refine List.forall_mem_cons.2 ⟨fun hend => ?_, fun u hu => ih u (List.mem_append_right _ hu)⟩
    obtain ⟨es', items', hv', hes', w, hw, hagain⟩ := hend.exists_item
    obtain rfl := Value.map.inj (hv.symm.trans hv')
    obtain rfl := hes.unique hes'
    exact ih w (List.mem_append_left _ hw) hagain

theorem leaves_flatten_of_mapM {f : Value → Option (List Entries)} {parts : List (List Entries)}
    (hf : ∀ w part, f w = some part → Leaves [w] part) (h : items.mapM f = some parts) : Leaves items parts.flatten := by
  induction items generalizing parts with
  | nil =>
    obtain rfl : [] = parts := by simpa using h
    exact .nil
  | cons w items ih =>
    simp only [List.mapM_cons, bind, Option.bind_eq_some_iff] at h
    obtain ⟨part, hpart, rest, hrest, hall⟩ := h
    obtain rfl : part :: rest = parts := Option.some.inj hall
    exact (hf w part hpart).append (ih hrest)

theorem leaves_of_leavesWithin (h : leavesWithin n v = some ls) : Leaves [v] ls := by
  induction n generalizing v ls with
  | zero => simp [leavesWithin] at h
  | succ n ih =>
    rw [leavesWithin] at h
    split at h
    · rename_i es hv
      split at h
      · rename_i hnone
        obtain rfl := Option.some.inj h
        exact .keep hv (listItems?_eq_none_iff.1 hnone) .nil
      · rename_i items hsome
        obtain ⟨parts, hparts, rfl⟩ := Option.map_eq_some_iff.1 h
        have hitems : Leaves items parts.flatten := leaves_flatten_of_mapM (fun w part => ih) hparts
        exact .expand hv (listItems?_eq_some_iff_expands.1 hsome) (by simpa using hitems)
    · rename_i hv
      obtain rfl := Option.some.inj h
      exact .drop (fun es => hv es) .nil

theorem leaves?_eq_some_iff : leaves? v = some ls ↔ Leaves [v] ls := by
  refine ⟨leaves_of_leavesWithin, fun h => ?_⟩
  cases hfound : leaves? v with
  | none => exact absurd (leaves?_eq_none_iff.1 hfound) (h.not_endless v (by simp))
  | some found => rw [h.unique (leaves_of_leavesWithin hfound)]

theorem exists_leaves_iff : (∃ ls, Leaves vs ls) ↔ ∀ v ∈ vs, ¬ Endless v := by
  refine ⟨fun ⟨ls, h⟩ => h.not_endless, fun h => ?_⟩
  induction vs with
  | nil => exact ⟨[], .nil⟩
  | cons v vs ih =>
    obtain ⟨hv, hvs⟩ := List.forall_mem_cons.1 h
    obtain ⟨rest, hrest⟩ := ih hvs
    obtain ⟨found, hfound⟩ := Option.ne_none_iff_exists'.1 fun hnone => hv (leaves?_eq_none_iff.1 hnone)
    exact ⟨found ++ rest, (leaves?_eq_some_iff.1 hfound).append hrest⟩

/-! ### Trees -/

mutual
/-- Values without groups: no container in them holds itself. -/
def isTree : Value → Bool
  | .list items | .tuple items | .set items => areTrees items
  | .map es => areTreeEntries es
  | .loop .. | .link _ => false
  | _ => true

def areTrees : List Value → Bool
  | [] => true
  | v :: vs => isTree v && areTrees vs

def areTreeEntries : Entries → Bool
  | [] => true
  | (k, v) :: es => isTree k && isTree v && areTreeEntries es
end

theorem isTree_of_mem (h : areTrees vs = true) (hv : v ∈ vs) : isTree v = true := by
  induction hv with
  | head vs => exact (Bool.and_eq_true_iff.1 h).1
  | tail _ _ ih => exact ih (Bool.and_eq_true_iff.1 h).2

theorem isTree_of_get? {name : Text} (h : areTreeEntries es = true) (hv : es.get? name = some v) :
    isTree v = true := by
  induction es with
  | nil => simp [Entries.get?] at hv
  | cons e es ih =>
    obtain ⟨k, u⟩ := e
    simp only [areTreeEntries, Bool.and_eq_true] at h
    by_cases hk : k = .str name
    · obtain rfl : u = v := by simpa [Entries.get?, hk] using hv
      exact h.1.2
    · exact ih h.2 (by simpa [Entries.get?, hk] using hv)

/-- The items of a tree are trees. -/
theorem isTree_of_expands (h : isTree v = true) (hv : v.expose = .map es) (hes : Expands es items) (hw : w ∈ items) :
    isTree w = true := by
  obtain ⟨-, x, hx, hlist⟩ := hes
  cases v with
  | map es' =>
    obtain rfl := Value.map.inj hv
    have htree := isTree_of_get? h hx
    cases x with
    | list items' =>
      obtain rfl := Value.list.inj hlist
      exact isTree_of_mem htree hw
    | loop cells i => simp [isTree] at htree
    | _ => simp [Value.expose] at hlist
  | loop cells i => simp [isTree] at h
  | _ => simp [Value.expose] at hv

/-- Trees end: on the way down the steps that are left become fewer. -/
theorem not_endless_of_isTree (h : isTree v = true) : ¬ Endless v := by
  induction hn : mostSteps v using Nat.strongRecOn generalizing v with
  | ind n ih =>
    intro hend
    obtain ⟨es, items, hv, hes, w, hw, hagain⟩ := hend.exists_item
    have hless : mostSteps w < mostSteps v := by
      cases v with
      | map es' =>
        obtain rfl := Value.map.inj hv
        exact mostSteps_lt_of_listItems (listItems?_eq_some_iff_expands.2 hes) hw
      | loop cells i => simp [isTree] at h
      | _ => simp [Value.expose] at hv
    exact ih _ (hn ▸ hless) (isTree_of_expands h hv hes hw) rfl hagain

/-! ## Loading -/

theorem not_isDocument (hnull : v.expose ≠ .null) (hmap : ∀ es, v.expose ≠ .map es) : ¬ IsDocument v := by
  rintro (h | ⟨es, h⟩)
  · exact hnull h
  · exact hmap es h

theorem leavesOfAll_eq_ok_iff : leavesOfAll i vs = .ok docs ↔ (∀ v ∈ vs, IsDocument v) ∧ Leaves vs docs := by
  induction vs generalizing i docs with
  | nil =>
    constructor
    · intro h
      obtain rfl := Except.ok.inj h
      exact ⟨by simp, .nil⟩
    · rintro ⟨-, h⟩
      cases h
      rfl
  | cons v vs ih =>
    rw [leavesOfAll, List.forall_mem_cons]
    split
    · rename_i hnull
      have hdoc : IsDocument v := Or.inl hnull
      rw [ih, leaves_drop_iff (by simp [hnull])]
      simp [hdoc]
    · rename_i es hmap
      have hdoc : IsDocument v := Or.inr ⟨es, hmap⟩
      cases hfound : leaves? v with
      | none =>
        have hno : ¬ Leaves (v :: vs) docs := fun h => h.not_endless v (by simp) (leaves?_eq_none_iff.1 hfound)
        simp [hno]
      | some found =>
        have hmap : (leavesOfAll (i + 1) vs).map (found ++ ·) = .ok docs ↔
            ∃ rest, leavesOfAll (i + 1) vs = .ok rest ∧ docs = found ++ rest := by
          cases leavesOfAll (i + 1) vs <;> simp [Except.map, eq_comm]
        have hsplit : Leaves (v :: vs) docs ↔ ∃ rest, Leaves vs rest ∧ docs = found ++ rest := by
          rw [leaves_cons_iff]
          simp [← leaves?_eq_some_iff, hfound]
        simp only [hmap, hsplit, ih, hdoc]
        simp [and_assoc]
    · rename_i hnull hmap
      have hdoc : ¬ IsDocument v := not_isDocument hnull hmap
      simp [hdoc]

theorem leavesOfAll_eq_notMapping_iff {k : Nat} {kind : String} :
    leavesOfAll i vs = .error (.notMapping k kind) ↔ ∃ before v after, vs = before ++ v :: after ∧
      (∀ w ∈ before, IsRead w) ∧ ¬ IsDocument v ∧ k = i + before.length ∧ kind = v.kindName := by
  constructor
  · intro h
    induction vs generalizing i with
    | nil => simp [leavesOfAll] at h
    | cons v vs ih =>
      by_cases hread : IsRead v
      · obtain ⟨before, w, after, rfl, hbefore, hw, rfl, rfl⟩ := ih ((leavesOfAll_cons hread).1 h)
        refine ⟨v :: before, w, after, rfl, List.forall_mem_cons.2 ⟨hread, hbefore⟩, hw, ?_, rfl⟩
        rw [List.length_cons]
        omega
      · rw [leavesOfAll] at h
        split at h
        · rename_i hnull
          exact absurd (Or.inl hnull) hread
        · rename_i es hmap
          cases hfound : leaves? v with
          | none => simp [hfound] at h
          | some found => exact absurd (Or.inr ⟨es, hmap, by simp [← leaves?_eq_none_iff, hfound]⟩) hread
        · rename_i hnull hmap
          obtain ⟨rfl, rfl⟩ := DocumentFault.notMapping.inj (Except.error.inj h)
          exact ⟨[], v, vs, rfl, by simp, not_isDocument hnull hmap, rfl, rfl⟩
  · rintro ⟨before, v, after, rfl, hbefore, hv, rfl, rfl⟩
    induction before generalizing i with
    | nil =>
      rw [List.nil_append, leavesOfAll]
      split
      · rename_i hnull
        exact absurd (Or.inl hnull) hv
      · rename_i es hmap
        exact absurd (Or.inr ⟨es, hmap⟩) hv
      · rfl
    | cons w before ih =>
      obtain ⟨hw, hbefore⟩ := List.forall_mem_cons.1 hbefore
      have hplace : i + (w :: before).length = i + 1 + before.length := by
        rw [List.length_cons]
        omega
      rw [List.cons_append, leavesOfAll_cons hw, hplace]
      exact ih hbefore

theorem leavesOfAll_regrouped (h : Regrouped vs ws) : leavesOfAll 0 vs = .ok docs ↔ leavesOfAll 0 ws = .ok docs := by
  rw [leavesOfAll_eq_ok_iff, leavesOfAll_eq_ok_iff]
  induction h with
  | rel vs ws h =>
    rw [leaves_wraps_iff h]
    obtain ⟨before, items, after, v, es, rfl, rfl, hv, -, hitems⟩ := h
    have hdoc : IsDocument v := Or.inr ⟨es, hv⟩
    simp only [List.forall_mem_append, List.forall_mem_cons, hdoc]
    tauto
  | refl => rfl
  | symm _ _ _ ih => exact ih.symm
  | trans _ _ _ _ _ ih ih' => exact ih.trans ih'

section
variable {text source : Text} (h : Yaml.documents text = .ok vs)
include h

theorem loadDocuments_iff_leavesOfAll : loadDocuments text source = .ok docs ↔ leavesOfAll 0 vs = .ok docs := by
  rw [loadDocuments_eq_ok_iff]
  simp [h]

theorem loadDocuments_eq_notMapping (i : Nat) (v : Value) (hv : vs[i]? = some v) (hno : ¬ IsDocument v)
    (hbefore : ∀ j < i, ∀ w, vs[j]? = some w → IsRead w) :
    loadDocuments text source = .error (.manifest ⟨.notMapping v.kindName, source, i⟩) := by
  obtain ⟨hi, rfl⟩ := List.getElem?_eq_some_iff.1 hv
  have hread : ∀ w ∈ vs.take i, IsRead w := by
    intro w hw
    obtain ⟨j, hj, rfl⟩ := List.mem_take_iff_getElem.1 hw
    exact hbefore j (by omega) _ (List.getElem?_eq_getElem _)
  have hleaves : leavesOfAll 0 vs = .error (.notMapping i (vs[i]).kindName) := by
    refine leavesOfAll_eq_notMapping_iff.2 ⟨vs.take i, vs[i], vs.drop (i + 1), ?_, hread, hno, ?_, rfl⟩
    · rw [← List.drop_eq_getElem_cons hi, List.take_append_drop]
    · simp [Nat.min_eq_left (Nat.le_of_lt hi)]
  simp only [loadDocuments, h, hleaves]

end

/-- **What loading makes of a stream** of documents that end. The first document that is neither empty nor a mapping
ends it, with its place in the stream. If there is none, loading gives the leaves of the stream, which are these and no
others: list documents are replaced by their items, and these by theirs as far down as there are lists, items that are
no mappings are dropped, every other mapping is kept, and empty documents are skipped. So no list is left, what was
found is found again in a stream of its own, and however documents are wrapped into lists, the same is found. -/
theorem leaves_of_stream {text : Text} {vs : List Value} (h : Yaml.documents text = .ok vs)
    (hend : ∀ v ∈ vs, ¬ Endless v) (source : Text) :
    (∀ (i : Nat) v, vs[i]? = some v → ¬ IsDocument v → (∀ j < i, ∀ w, vs[j]? = some w → IsDocument w) →
      loadDocuments text source = .error (.manifest ⟨.notMapping v.kindName, source, i⟩)) ∧
    ((∀ v ∈ vs, IsDocument v) → ∃ docs, loadDocuments text source = .ok docs ∧ ∀ ls, Leaves vs ls ↔ ls = docs) ∧
    (∀ docs, loadDocuments text source = .ok docs →
      (∀ d ∈ docs, ∀ items, ¬ Expands d items) ∧ leavesOfAll 0 (docs.map .map) = .ok docs) ∧
    ∀ text' vs', Yaml.documents text' = .ok vs' → Regrouped vs vs' →
      ∀ docs, loadDocuments text source = .ok docs ↔ loadDocuments text' source = .ok docs := by
  refine ⟨fun i v hv hno hbefore => ?_, fun hdocs => ?_, fun docs hdocs => ?_, fun text' vs' h' hgroup docs => ?_⟩
  · refine loadDocuments_eq_notMapping h i v hv hno fun j hj w hw => ?_
    obtain hnull | ⟨es, hes⟩ := hbefore j hj w hw
    · exact Or.inl hnull
    · exact Or.inr ⟨es, hes, hend w (List.mem_of_getElem? hw)⟩
  · obtain ⟨docs, hleaves⟩ := exists_leaves_iff.2 hend
    refine ⟨docs, (loadDocuments_iff_leavesOfAll h).2 (leavesOfAll_eq_ok_iff.2 ⟨hdocs, hleaves⟩), fun ls => ⟨?_, ?_⟩⟩
    · exact fun hls => hls.unique hleaves
    · rintro rfl
      exact hleaves
  · obtain ⟨-, hleaves⟩ := leavesOfAll_eq_ok_iff.1 ((loadDocuments_iff_leavesOfAll h).1 hdocs)
    refine ⟨hleaves.not_expands, leavesOfAll_eq_ok_iff.2 ⟨?_, leaves_of_not_expands hleaves.not_expands⟩⟩
    intro v hv
    obtain ⟨es, -, rfl⟩ := List.mem_map.1 hv
    exact Or.inr ⟨es, rfl⟩
  · rw [loadDocuments_iff_leavesOfAll h, loadDocuments_iff_leavesOfAll h']
    exact leavesOfAll_regrouped hgroup

/-- A list in a list, with items that are no mappings, between empty documents and mappings that only look like lists. -/
def nestedStream : Text :=
  "---\n---\nkind: XList\nitems: [{kind: List, items: [{kind: X}, 5, null]}, [1], {kind: Y}]\n---\nkind: List\n" ++
    "items: {kind: Z}\n---\nkind: [List]\nitems: []\n"

theorem leaves_of_nested_stream :
    let x : Entries := [(.str "kind", .str "X")]
    let y : Entries := [(.str "kind", .str "Y")]
    let z : Entries := [(.str "kind", .str "List"), (.str "items", .map [(.str "kind", .str "Z")])]
    let w : Entries := [(.str "kind", .list [.str "List"]), (.str "items", .list [])]
    let inner : Value := .map [(.str "kind", .str "List"), (.str "items", .list [.map x, .int 5, .null])]
    let outer : Value := .map [(.str "kind", .str "XList"), (.str "items", .list [inner, .list [.int 1], .map y])]
    let vs : List Value := [.null, outer, .map z, .map w]
    Yaml.documents nestedStream = .ok vs ∧ (∀ v ∈ vs, ¬ Endless v) ∧
      loadDocuments nestedStream unnamedSource = .ok [x, y, z, w] ∧ Leaves vs [x, y, z, w] := by
  intro x y z w inner outer vs
  have h : Yaml.documents nestedStream = .ok vs := by decide +kernel
  have htree : areTrees vs = true := by decide +kernel
  have hend : ∀ v ∈ vs, ¬ Endless v := fun v hv => not_endless_of_isTree (isTree_of_mem htree hv)
  have hdocs : loadDocuments nestedStream unnamedSource = .ok [x, y, z, w] := by decide +kernel
  have hread : ∀ v ∈ vs, IsDocument v := by simp [vs, outer, IsDocument, Value.expose]
  obtain ⟨docs, hload, hleaves⟩ := (leaves_of_stream h hend unnamedSource).2.1 hread
  obtain rfl := Except.ok.inj (hload.symm.trans hdocs)
  exact ⟨h, hend, hdocs, (hleaves _).2 rfl⟩

end Readiness.Manifest
