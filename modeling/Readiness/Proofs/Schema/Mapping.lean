import Readiness.Schema.Tree

/-!
# Names in mappings

A mapping has one entry for each of its names. `distinct` is how it comes to that, when a document is read as well as
when it is written: the last of several entries of one name counts, at the place of the first. What is distinct already
stays as it is, so that doing both changes nothing the second time.

Names are written in full if they are made of characters. Halves of characters have no written form and are replaced,
which may bring names together (`legible`).
-/
namespace Readiness

/-! ## Names made of characters -/

namespace Text

/-- A text without halves of characters. -/
def IsWhole (t : Text) : Prop := t.toString?.isSome = true

instance (t : Text) : Decidable t.IsWhole := by unfold IsWhole; infer_instance

@[simp] theorem isWhole_ofString (s : String) : (ofString s).IsWhole := by simp [IsWhole]

theorem chars?_eq_some {t : Text} {cs : List Char} (h : t.chars? = some cs) : t = ofChars cs := by
  obtain ⟨points⟩ := t
  simp only [chars?, ofChars, Text.mk.injEq] at h ⊢
  induction points generalizing cs with
  | nil =>
    obtain rfl : [] = cs := by simpa using h
    rfl
  | cons c points ih =>
    simp only [List.mapM_cons, bind, Option.bind_eq_some_iff] at h
    obtain ⟨x, hx, xs, hxs, hcs⟩ := h
    obtain rfl : x :: xs = cs := Option.some.inj hcs
    rw [List.map_cons, ofChar_of_char? hx, ← ih hxs]

theorem exists_ofString_of_isWhole {t : Text} (h : t.IsWhole) : ∃ s : String, t = s := by
  obtain ⟨s, hs⟩ := Option.isSome_iff_exists.1 h
  obtain ⟨cs, hcs, rfl⟩ := Option.map_eq_some_iff.1 hs
  refine ⟨String.ofList cs, ?_⟩
  rw [ofString, String.toList_ofList]
  exact chars?_eq_some hcs

theorem toString?_eq_some_iff {t : Text} {s : String} : t.toString? = some s ↔ t = s := by
  constructor
  · intro h
    obtain ⟨s', rfl⟩ := exists_ofString_of_isWhole (Option.isSome_of_eq_some h)
    simpa using h
  · rintro rfl
    exact toString?_ofString s

@[simp] theorem lossy_ofString (s : String) : (ofString s).lossy = s := by
  have hpoints : ∀ cs : List Char,
      (cs.map CodePoint.ofChar).flatMap (fun c => (c.char?.map ([·])).getD ['\uFFFD', '\uFFFD', '\uFFFD']) = cs := by
    intro cs
    induction cs with
    | nil => rfl
    | cons c cs ih => simp [char?_ofChar, ih]
  rw [lossy, ofString, ofChars, hpoints, String.ofList_toList]

/-- Exactly the names without halves are written as they are. -/
theorem lossy_eq_self_iff {t : Text} : (t.lossy : Text) = t ↔ t.IsWhole := by
  constructor
  · intro h
    rw [← h]
    exact isWhole_ofString _
  · intro h
    obtain ⟨s, rfl⟩ := exists_ofString_of_isWhole h
    rw [lossy_ofString]

end Text

namespace Schema

open Decoder

variable {α β : Type}

/-! ## Distinct names -/

def names (ps : List (Text × α)) : List Text := ps.map Prod.fst

/-- One entry for each name. -/
def distinct (ps : List (Text × α)) : List (Text × α) := ps.foldl (fun acc p => putName p.1 p.2 acc) []

section
variable {name : Text} {a : α} {ps acc : List (Text × α)}

theorem putName_of_notMem (h : name ∉ names ps) : putName name a ps = ps ++ [(name, a)] := by
  induction ps with
  | nil => rfl
  | cons p ps ih =>
    simp only [names, List.map_cons, List.mem_cons, not_or] at h
    rw [putName, if_neg (Ne.symm h.1), ih h.2, List.cons_append]

theorem names_putName_of_mem (h : name ∈ names ps) : names (putName name a ps) = names ps := by
  induction ps with
  | nil => simp [names] at h
  | cons p ps ih =>
    rw [putName]
    split
    · rfl
    · rename_i hne
      have hps : name ∈ names ps := by
        simp only [names, List.map_cons, List.mem_cons] at h
        exact h.resolve_left (Ne.symm hne)
      exact congrArg (p.1 :: ·) (ih hps)

theorem mem_of_mem_putName {p : Text × α} (h : p ∈ putName name a ps) : p = (name, a) ∨ p ∈ ps := by
  induction ps with
  | nil => exact Or.inl (List.mem_singleton.1 h)
  | cons q ps ih =>
    rw [putName] at h
    split at h
    · rename_i hq
      obtain rfl | h := List.mem_cons.1 h
      · exact Or.inl (by rw [hq])
      · exact Or.inr (List.mem_cons_of_mem q h)
    · obtain rfl | h := List.mem_cons.1 h
      · exact Or.inr (by simp)
      · exact (ih h).imp_right (List.mem_cons_of_mem q)

theorem nodup_names_putName (h : (names ps).Nodup) : (names (putName name a ps)).Nodup := by
  by_cases hmem : name ∈ names ps
  · rwa [names_putName_of_mem hmem]
  · rw [putName_of_notMem hmem, names, List.map_append]
    refine List.nodup_append.2 ⟨h, by simp, fun x hx y hy => ?_⟩
    rw [List.mem_singleton.1 hy]
    rintro rfl
    exact hmem hx

theorem nodup_names_distinct (ps : List (Text × α)) : (names (distinct ps)).Nodup := by
  have hfold : ∀ acc : List (Text × α), (names acc).Nodup →
      (names (ps.foldl (fun acc p => putName p.1 p.2 acc) acc)).Nodup := by
    induction ps with
    | nil => exact fun acc h => h
    | cons p ps ih => exact fun acc h => ih _ (nodup_names_putName h)
  exact hfold [] List.nodup_nil

theorem mem_of_mem_distinct {p : Text × α} (h : p ∈ distinct ps) : p ∈ ps := by
  have hfold : ∀ acc : List (Text × α), p ∈ ps.foldl (fun acc p => putName p.1 p.2 acc) acc → p ∈ acc ∨ p ∈ ps := by
    clear h
    induction ps with
    | nil => exact fun acc h => Or.inl h
    | cons q ps ih =>
      intro acc h
      obtain h | h := ih _ h
      · obtain rfl | h := mem_of_mem_putName h
        · exact Or.inr (by simp)
        · exact Or.inl h
      · exact Or.inr (List.mem_cons_of_mem q h)
  simpa using hfold [] h

/-- What has no name twice stays as it is. -/
theorem distinct_of_nodup (h : (names ps).Nodup) : distinct ps = ps := by
  have hfold : ∀ (ps acc : List (Text × α)), (names (acc ++ ps)).Nodup →
      ps.foldl (fun acc p => putName p.1 p.2 acc) acc = acc ++ ps := by
    intro ps
    induction ps with
    | nil => exact fun acc _ => (List.append_nil acc).symm
    | cons p ps ih =>
      intro acc h
      have hnot : p.1 ∉ names acc := by
        intro hmem
        rw [names, List.map_append, List.map_cons] at h
        exact (List.nodup_append.1 h).2.2 p.1 hmem p.1 (by simp) rfl
      rw [List.foldl_cons, putName_of_notMem hnot, ih _ (by rwa [List.append_assoc]), List.append_assoc]
      rfl
  exact hfold ps [] h

@[simp] theorem distinct_distinct (ps : List (Text × α)) : distinct (distinct ps) = distinct ps :=
  distinct_of_nodup (nodup_names_distinct ps)

end

theorem putName_map (g : α → β) (name : Text) (a : α) (ps : List (Text × α)) :
    putName name (g a) (ps.map fun p => (p.1, g p.2)) = (putName name a ps).map fun p => (p.1, g p.2) := by
  induction ps with
  | nil => rfl
  | cons p ps ih =>
    rw [List.map_cons, putName, putName]
    split
    · rfl
    · rw [List.map_cons, ih]

/-- The values play no part in it. -/
theorem distinct_map (g : α → β) (ps : List (Text × α)) :
    distinct (ps.map fun p => (p.1, g p.2)) = (distinct ps).map fun p => (p.1, g p.2) := by
  have hfold : ∀ acc : List (Text × α),
      (ps.map fun p => (p.1, g p.2)).foldl (fun acc p => putName p.1 p.2 acc) (acc.map fun p => (p.1, g p.2)) =
        (ps.foldl (fun acc p => putName p.1 p.2 acc) acc).map fun p => (p.1, g p.2) := by
    induction ps with
    | nil => exact fun _ => rfl
    | cons p ps ih =>
      intro acc
      rw [List.map_cons, List.foldl_cons, List.foldl_cons, putName_map g p.1 p.2 acc, ih]
  exact hfold []

/-! ## Entries under texts -/

theorem put_entries (name : Text) (v : Value) (fs : Fields) :
    Entries.put (.str name) v fs.entries = Fields.entries (putName name v fs) := by
  induction fs with
  | nil => rfl
  | cons f fs ih =>
    have hkey : (Value.str f.1).sameKey (.str name) = decide (f.1 = name) := by
      simp [Value.sameKey, Value.keyNumber?]
    simp only [Fields.entries, List.map_cons, Entries.put, putName, hkey, decide_eq_true_eq] at ih ⊢
    split
    · rfl
    · rw [ih, List.map_cons]

theorem ofList_entries (fs : Fields) : Entries.ofList fs.entries = Fields.entries (distinct fs) := by
  have hfold : ∀ acc : Fields, fs.entries.foldl (fun es e => es.put e.1 e.2) acc.entries =
      Fields.entries (fs.foldl (fun acc p => putName p.1 p.2 acc) acc) := by
    induction fs with
    | nil => exact fun _ => rfl
    | cons f fs ih =>
      intro acc
      have hcons : Fields.entries (f :: fs) = (.str f.1, f.2) :: Fields.entries fs := rfl
      rw [hcons, List.foldl_cons, List.foldl_cons, put_entries, ih]
  exact hfold []

theorem entriesOf_entries {d : Decoder α} {w : α → Value} {ps : List (Text × α)}
    (h : ∀ p ∈ ps, d (w p.2) = .accepted p.2) :
    entriesOf d (Fields.entries (ps.map fun p => (p.1, w p.2))) = .accepted ps := by
  induction ps with
  | nil => rfl
  | cons p ps ih =>
    have hkey : keyOf (.str p.1) = .accepted p.1 := rfl
    simp only [Fields.entries, List.map_cons, entriesOf, hkey, h p (by simp)] at ih ⊢
    rw [ih fun q hq => h q (by simp [hq])]
    rfl

/-- A mapping from texts is decoded entry by entry. -/
theorem mappingOf_entries {d : Decoder α} {w : α → Value} {ps : List (Text × α)}
    (h : ∀ p ∈ ps, d (w p.2) = .accepted p.2) :
    mappingOf d (.map (Fields.entries (ps.map fun p => (p.1, w p.2)))) = .accepted (distinct ps) := by
  show (entriesOf d _).map distinct = _
  rw [entriesOf_entries h]
  rfl

/-- No mapping has a name twice once it is decoded. -/
theorem nodup_of_mappingOf {d : Decoder α} {v : Value} {ps : List (Text × α)} (h : mappingOf d v = .accepted ps) :
    (names ps).Nodup := by
  unfold mappingOf at h
  split at h
  · rename_i es _
    cases hes : entriesOf d es with
    | rejected issues => simp [hes, Decoded.map] at h
    | accepted found =>
      rw [hes] at h
      obtain rfl : distinct found = ps := Decoded.accepted.inj h
      exact nodup_names_distinct found
  · simp [Decoded.reject] at h

end Schema

/-! ## Names as they are written -/

open Schema

/-- Texts under names, as they are once they have been written: halves of characters are replaced, and the last of
several entries of one name counts. -/
def legible (ps : List (Text × Text)) : List (Text × Text) := distinct (ps.map fun p => ((p.1.lossy : Text), p.2))

/-- Every name is made of characters. -/
def AllWhole (ps : List (Text × Text)) : Prop := ∀ p ∈ ps, p.1.IsWhole

theorem allWhole_legible (ps : List (Text × Text)) : AllWhole (legible ps) := by
  intro p hp
  obtain ⟨q, _, rfl⟩ := List.mem_map.1 (mem_of_mem_distinct hp)
  exact Text.isWhole_ofString _

theorem map_lossy_of_allWhole {ps : List (Text × Text)} (h : AllWhole ps) :
    (ps.map fun p => ((p.1.lossy : Text), p.2)) = ps := by
  conv => rhs; rw [← List.map_id ps]
  refine List.map_congr_left fun p hp => ?_
  rw [Text.lossy_eq_self_iff.2 (h p hp)]
  rfl

@[simp] theorem legible_legible (ps : List (Text × Text)) : legible (legible ps) = legible ps := by
  conv => lhs; rw [legible, map_lossy_of_allWhole (allWhole_legible ps)]
  exact distinct_distinct _

/-- Names that are whole and differ are written as they are. -/
theorem legible_eq_self_iff {ps : List (Text × Text)} (hd : (names ps).Nodup) : legible ps = ps ↔ AllWhole ps := by
  constructor
  · intro h
    rw [← h]
    exact allWhole_legible ps
  · intro h
    rw [legible, map_lossy_of_allWhole h, distinct_of_nodup hd]

end Readiness
