import Readiness.Proofs.Value.Portable

/-!
# Manifests are read back

What a tree is written as, decoded again. A field is found under its key as long as no other field takes its key or its
name (`Separate`), and a field that was null, and so was left out, is read as its default. From this a record is read
back field by field (`decode_of_mem`).
-/
namespace Readiness.Schema

open Decoder

variable {α : Type}

/-! ## Trees -/

/-- Whatever a tree is written as in a manifest is read as a given thing. -/
def Reads (d : Decoder α) (t : Tree) (a : α) : Prop := ∀ v, t.render .manifest = .ok v → d v = .accepted a

/-- A tree under a field is read as a given thing, which is the default if nothing is written. -/
structure ReadsField (d : Decoder α) (default : α) (t : Tree) (a : α) : Prop where
  absent : t.isNull = true → a = default
  present : t.isNull = false → Reads d t a

theorem Reads.field {d : Decoder α} {default a : α} {t : Tree} (hnull : t.isNull = false) (h : Reads d t a) :
    ReadsField d default t a :=
  ⟨fun hn => by simp [hnull] at hn, fun _ => h⟩

theorem render_ne_null {form : Form} {t : Tree} {v : Value} (hnull : t.isNull = false) (h : t.render form = .ok v) :
    v ≠ .null := by
  cases t with
  | leaf w =>
    obtain rfl := Except.ok.inj h
    rintro rfl
    simp [Tree.isNull] at hnull
  | untyped fs =>
    obtain ⟨ps, rfl, _⟩ := Fields.exists_of_portable h
    simp
  | list ts =>
    simp only [Tree.render] at h
    cases hts : Tree.renderItems form ts with
    | error f => simp [hts, Except.map] at h
    | ok vs =>
      obtain rfl : Value.list vs = v := by simpa [hts, Except.map] using h
      simp
  | record fs =>
    simp only [Tree.render] at h
    cases hfs : Tree.renderFields form fs with
    | error f => simp [hfs, Except.map] at h
    | ok es =>
      obtain rfl : Value.map es = v := by simpa [hfs, Except.map] using h
      simp

theorem reads_ofText (t : Text) : Reads Decoder.text (.ofText t) t := by
  intro v h
  obtain rfl := Except.ok.inj h
  rfl

theorem reads_boundedText {lo hi : Nat} (s : BoundedText lo hi) : Reads (boundedText lo hi) (.ofText s.val) s := by
  intro v h
  obtain rfl := Except.ok.inj h
  simp [boundedText, characters, Content.of, checkLength, s.property, Decoded.andCheck]

theorem reads_ofNat (n : Nat) : Reads natural (.ofNat n) n := by
  intro v h
  obtain rfl := Except.ok.inj h
  have hsign : ¬ (n : Int) < 0 := by omega
  simp [natural, whole, Decoded.andCheck, checkNatural, hsign]

theorem optional_of_ne_null {d : Decoder α} {v : Value} (h : v ≠ .null) : optional d v = some <$> d v := by
  cases v with
  | null => exact absurd rfl h
  | _ => rfl

theorem readsField_ofOption {d : Decoder α} {f : α → Tree} (hnull : ∀ a, (f a).isNull = false)
    (h : ∀ a, Reads d (f a) a) (o : Option α) : ReadsField (optional d) none (.ofOption f o) o := by
  cases o with
  | none => exact ⟨fun _ => rfl, fun hn => by simp [Tree.ofOption, Tree.isNull] at hn⟩
  | some a =>
    refine Reads.field (hnull a) fun v hv => ?_
    rw [optional_of_ne_null (render_ne_null (hnull a) hv), h a v hv]
    rfl

theorem itemsFrom_of_renderItems {d : Decoder α} {f : α → Tree} {as : List α} (h : ∀ a ∈ as, Reads d (f a) a) {i : Int}
    {vs : List Value} (hvs : Tree.renderItems .manifest (as.map f) = .ok vs) : itemsFrom d i vs = .accepted as := by
  induction as generalizing i vs with
  | nil =>
    obtain rfl : [] = vs := Except.ok.inj hvs
    rfl
  | cons a as ih =>
    cases hv : (f a).render .manifest with
    | error g => simp [Tree.renderItems, hv, bind, Except.bind] at hvs
    | ok v =>
      cases hrest : Tree.renderItems .manifest (as.map f) with
      | error g => simp [Tree.renderItems, hv, hrest, bind, Except.bind] at hvs
      | ok rest =>
        obtain rfl : v :: rest = vs := by
          simpa [Tree.renderItems, hv, hrest, bind, Except.bind, pure, Except.pure] using hvs
        rw [itemsFrom, h a (by simp) v hv, ih (fun b hb => h b (by simp [hb])) hrest]
        rfl

theorem reads_list {d : Decoder α} {f : α → Tree} {as : List α} (h : ∀ a ∈ as, Reads d (f a) a) :
    Reads (listOf d) (.list (as.map f)) as := by
  intro v hv
  simp only [Tree.render] at hv
  cases hvs : Tree.renderItems .manifest (as.map f) with
  | error g => simp [hvs, Except.map] at hv
  | ok vs =>
    obtain rfl : Value.list vs = v := by simpa [hvs, Except.map] using hv
    exact itemsFrom_of_renderItems h hvs

/-- Texts under names are always written, the names as far as they can be. -/
theorem render_ofTexts (form : Form) (ps : List (Text × Text)) : (Tree.ofTexts ps).render form =
    .ok (.map (Fields.entries ((legible ps).map fun p => (p.1, .str p.2)))) := by
  have hall : (ps.map fun p => (p.1, Value.str p.2)).mapM Fields.portableField =
      .ok (Fields.entries ((ps.map fun p => ((p.1.lossy : Text), p.2)).map fun p => (p.1, .str p.2))) := by
    induction ps with
    | nil => rfl
    | cons p ps ih =>
      rw [List.map_cons, List.mapM_cons, ih]
      rfl
  rw [Tree.ofTexts, Tree.render, Fields.portable_eq, hall, Except.map, ofList_entries, distinct_map]
  rfl

theorem reads_ofTexts (ps : List (Text × Text)) : Reads (mappingOf Decoder.text) (.ofTexts ps) (legible ps) := by
  intro v hv
  rw [render_ofTexts] at hv
  obtain rfl := Except.ok.inj hv
  rw [mappingOf_entries (w := .str) (fun _ _ => rfl), distinct_of_nodup (show (names (legible ps)).Nodup from nodup_names_distinct _)]

/-- What is read of a tree is written as that tree is, even if it is not what the tree was made of. -/
def Restores (d : Decoder α) (tree : α → Tree) (a : α) : Prop :=
  ∀ v, (tree a).render .manifest = .ok v → ∃ b, Reads d (tree a) b ∧ (tree b).render .manifest = .ok v

theorem restores_untyped (fs : Fields) : Restores (mappingOf anything) .untyped fs := by
  intro v h
  obtain ⟨ps, rfl, hps⟩ := Fields.exists_of_portable h
  refine ⟨ps, fun w hw => ?_, Fields.portable_of_isPortable hps⟩
  obtain rfl := Except.ok.inj (h.symm.trans hw)
  have hread : mappingOf anything (.map (Fields.entries (ps.map fun p => (p.1, id p.2)))) = .accepted (distinct ps) :=
    mappingOf_entries fun _ _ => rfl
  rw [distinct_of_nodup hps.nodup] at hread
  simpa using hread

theorem restores_ofOption {d : Decoder α} {f : α → Tree} (hnull : ∀ a, (f a).isNull = false)
    (h : ∀ a, Restores d f a) (o : Option α) {v : Value} (hv : (Tree.ofOption f o).render .manifest = .ok v) :
    ∃ o', ReadsField (optional d) none (.ofOption f o) o' ∧ (Tree.ofOption f o').isNull = (Tree.ofOption f o).isNull ∧
      (Tree.ofOption f o').render .manifest = .ok v := by
  cases o with
  | none => exact ⟨none, ⟨fun _ => rfl, fun hn => by simp [Tree.ofOption, Tree.isNull] at hn⟩, rfl, hv⟩
  | some a =>
    obtain ⟨b, hread, hb⟩ := h a v hv
    refine ⟨some b, Reads.field (hnull a) fun w hw => ?_, (hnull b).trans (hnull a).symm, hb⟩
    rw [optional_of_ne_null (render_ne_null (hnull a) hw), hread w hw]
    rfl

/-! ## Fields -/

/-- No field takes the key or the name of another one. -/
def Separate (fs : List FieldName) : Prop := fs.Pairwise fun f g => f.key ≠ g.key ∧ f.key ≠ g.name ∧ g.key ≠ f.name

instance (fs : List FieldName) : Decidable (Separate fs) := by unfold Separate; infer_instance

theorem renderFields_cons {f : FieldName} {t : Tree} {fs : List (FieldName × Tree)} {es : Entries}
    (h : Tree.renderFields .manifest ((f, t) :: fs) = .ok es) :
    ∃ v rest, t.render .manifest = .ok v ∧ Tree.renderFields .manifest fs = .ok rest ∧
      es = if t.isNull then rest else (.str (f.key : Text), v) :: rest := by
  cases hv : t.render .manifest with
  | error g => simp [Tree.renderFields, hv, bind, Except.bind] at h
  | ok v =>
    cases hrest : Tree.renderFields .manifest fs with
    | error g => simp [Tree.renderFields, hv, hrest, bind, Except.bind] at h
    | ok rest =>
      refine ⟨v, rest, rfl, rfl, ?_⟩
      have hform : Form.manifest.withoutNull = true ∧ Form.manifest.byKey = true := ⟨rfl, rfl⟩
      by_cases hnull : t.isNull = true <;>
        simpa [Tree.renderFields, hv, hrest, hnull, hform, bind, Except.bind, pure, Except.pure, eq_comm] using h

theorem get?_cons (k : String) (v : Value) (es : Entries) (name : String) :
    Entries.get? ((.str (k : Text), v) :: es) name = if k = name then some v else es.get? name := by
  by_cases h : k = name <;> simp [Entries.get?, h]

theorem get?_of_renderFields {fs : List (FieldName × Tree)} {es : Entries}
    (h : Tree.renderFields .manifest fs = .ok es) {name : String} (hname : ∀ f ∈ fs, f.1.key ≠ name) :
    es.get? name = none := by
  induction fs generalizing es with
  | nil =>
    obtain rfl : [] = es := Except.ok.inj h
    rfl
  | cons f fs ih =>
    obtain ⟨v, rest, _, hrest, rfl⟩ := renderFields_cons h
    have hnone := ih hrest fun g hg => hname g (by simp [hg])
    split
    · exact hnone
    · rw [get?_cons, if_neg (hname f (by simp)), hnone]

/-- Entries that fields are written as, none of which can be taken for another. -/
structure Written (fs : List (FieldName × Tree)) (es : Entries) : Prop where
  separate : Separate (fs.map Prod.fst)
  rendered : Tree.renderFields .manifest fs = .ok es

section
variable {fs : List (FieldName × Tree)} {es : Entries} (h : Written fs es) {f : FieldName} {t : Tree}
include h

/-- A field is found under its key unless it was left out. -/
theorem given?_of_mem (hmem : (f, t) ∈ fs) :
    ∃ v, t.render .manifest = .ok v ∧ f.given? es = if t.isNull then none else some (f.key, v) := by
  obtain ⟨hsep, h⟩ := h
  induction fs generalizing es with
  | nil => simp at hmem
  | cons g fs ih =>
    obtain ⟨v, rest, hv, hrest, rfl⟩ := renderFields_cons h
    obtain ⟨hapart, hsep⟩ := List.pairwise_cons.1 hsep
    obtain rfl | hmem := List.mem_cons.1 hmem
    · refine ⟨v, hv, ?_⟩
      have hkey : rest.get? f.key = none := get?_of_renderFields hrest fun g hg =>
        Ne.symm (hapart g.1 (List.mem_map_of_mem hg)).1
      have hname : rest.get? f.name = none := get?_of_renderFields hrest fun g hg =>
        (hapart g.1 (List.mem_map_of_mem hg)).2.2
      by_cases hnull : t.isNull = true
      · simp [hnull, FieldName.given?, hkey, hname]
      · simp [hnull, FieldName.given?, get?_cons]
    · obtain ⟨w, hw, hgiven⟩ := ih hmem hsep hrest
      refine ⟨w, hw, ?_⟩
      obtain ⟨hkey, hname, _⟩ := hapart f (List.mem_map_of_mem (f := Prod.fst) hmem)
      rw [← hgiven]
      split
      · rfl
      · simp [FieldName.given?, get?_cons, hkey, hname]

theorem decode_of_mem (hmem : (f, t) ∈ fs) {d : Decoder α} {default a : α} (hread : ReadsField d default t a) :
    f.decode es d default = .accepted a := by
  obtain ⟨v, hv, hgiven⟩ := given?_of_mem h hmem
  by_cases hnull : t.isNull = true
  · simp [FieldName.decode, hgiven, hnull, hread.absent hnull]
  · rw [Bool.not_eq_true] at hnull
    simp [FieldName.decode, hgiven, hnull, hread.present hnull v hv, Decoded.within]

theorem require_of_mem (hmem : (f, t) ∈ fs) {d : Decoder α} {a : α} (hnull : t.isNull = false) (hread : Reads d t a) :
    f.require es d = .accepted a := by
  obtain ⟨v, hv, hgiven⟩ := given?_of_mem h hmem
  simp [FieldName.require, hgiven, hnull, hread v hv, Decoded.within]

end

theorem exists_written {fs : List (FieldName × Tree)} {v : Value} (h : (Tree.record fs).render .manifest = .ok v)
    (hsep : Separate (fs.map Prod.fst)) : ∃ es, Written fs es ∧ v = .map es := by
  simp only [Tree.render] at h
  cases hes : Tree.renderFields .manifest fs with
  | error g => simp [hes, Except.map] at h
  | ok es =>
    obtain rfl : Value.map es = v := by simpa [hes, Except.map] using h
    exact ⟨es, ⟨hsep, hes⟩, rfl⟩

/-- Records are read from the entries that they are written as. -/
theorem reads_record {model : String} {build : Entries → Decoded α} {fs : List (FieldName × Tree)} {a : α}
    (hsep : Separate (fs.map Prod.fst)) (h : ∀ es, Written fs es → build es = .accepted a) :
    Reads (record model build) (.record fs) a := by
  intro v hv
  obtain ⟨es, hes, rfl⟩ := exists_written hv hsep
  exact h es hes

/-! ## What is accepted -/

theorem map_eq_accepted_iff {β : Type} {f : α → β} {d : Decoded α} {b : β} :
    f <$> d = .accepted b ↔ ∃ a, d = .accepted a ∧ f a = b := by
  cases d <;> simp

theorem seq_eq_accepted_iff {β : Type} {d : Decoded (α → β)} {e : Decoded α} {b : β} :
    d <*> e = .accepted b ↔ ∃ f a, d = .accepted f ∧ e = .accepted a ∧ f a = b := by
  cases d <;> cases e <;> simp

theorem record_eq_accepted {model : String} {build : Entries → Decoded α} {v : Value} {a : α}
    (h : record model build v = .accepted a) : ∃ es, build es = .accepted a := by
  unfold record at h
  split at h
  · exact ⟨_, h⟩
  · simp [Decoded.reject] at h

/-- A field holds its default or something that its decoder accepted. -/
theorem FieldName.decode_eq_accepted {f : FieldName} {es : Entries} {d : Decoder α} {default a : α}
    (h : f.decode es d default = .accepted a) : a = default ∨ ∃ v, d v = .accepted a := by
  unfold decode at h
  split at h
  · rename_i v _
    cases hv : d v with
    | rejected issues => simp [hv, Decoded.within] at h
    | accepted b =>
      obtain rfl : b = a := by simpa [hv, Decoded.within] using h
      exact Or.inr ⟨v, hv⟩
  · exact Or.inl (Decoded.accepted.inj h).symm

theorem nodup_of_field {f : FieldName} {es : Entries} {d : Decoder α} {ps : List (Text × α)}
    (h : f.decode es (mappingOf d) [] = .accepted ps) : (names ps).Nodup := by
  obtain rfl | ⟨v, hv⟩ := f.decode_eq_accepted h
  · exact List.nodup_nil
  · exact nodup_of_mappingOf hv

end Readiness.Schema
