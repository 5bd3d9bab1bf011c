import Readiness.Proofs.Manifest.Documents
import Readiness.Proofs.Manifest.Loading
import Readiness.Proofs.Text.Utf8

/-!
# What loading can end in

Loading is meant to end in a bundle or in an error with a source. Here is when it does not (`unforeseen_load_iff`): a
scalar has no value, a list goes on without an end, or a refusal cannot name the kind that it is about; for a file also
where its path can be no name, or its bytes are not those of a text. Files that are missing or lie where none can be,
malformed texts and documents of every other kind end in errors with a source.

How deep calls may go in an interpreter is not modelled, so what is said here is said of texts that stay within that:
where a limit on recursion is hit, by nesting, that is one more end that loading does not foresee.
-/
namespace Readiness.Manifest

/-- The failures that have a source. -/
def Failure.IsManifest (f : Failure) : Prop := ∃ e, f = .manifest e

/-! ## Documents without an end -/

/-- Documents that the ones behind them are read after: empty ones, and mappings with an end. -/
def IsRead (v : Value) : Prop := v.expose = .null ∨ ∃ es, v.expose = .map es ∧ ¬ Endless v

/-- A document without an end, behind documents that are read. -/
def HasEndless (vs : List Value) : Prop :=
  ∃ before v after, vs = before ++ v :: after ∧ (∀ w ∈ before, IsRead w) ∧ Endless v

theorem leavesOfAll_cons {i : Nat} {v : Value} {vs : List Value} {f : DocumentFault} (h : IsRead v) :
    leavesOfAll i (v :: vs) = .error f ↔ leavesOfAll (i + 1) vs = .error f := by
  rw [leavesOfAll]
  obtain h | ⟨es, hmap, hend⟩ := h
  · rw [h]
  · cases hleaves : leaves? v with
    | none => exact absurd (leaves?_eq_none_iff.1 hleaves) hend
    | some found =>
      rw [hmap]
      cases leavesOfAll (i + 1) vs <;> simp [Except.map]

theorem leavesOfAll_eq_endless_iff {i : Nat} {vs : List Value} :
    leavesOfAll i vs = .error .endless ↔ HasEndless vs := by
  constructor
  · intro h
    induction vs generalizing i with
    | nil => simp [leavesOfAll] at h
    | cons v vs ih =>
      by_cases hread : IsRead v
      · obtain ⟨before, w, after, rfl, hbefore, hw⟩ := ih ((leavesOfAll_cons hread).1 h)
        exact ⟨v :: before, w, after, rfl, by simpa [hread] using hbefore, hw⟩
      · refine ⟨[], v, vs, rfl, by simp, by_contra fun hend => ?_⟩
        cases hexpose : v.expose with
        | null => exact hread (Or.inl hexpose)
        | map es => exact hread (Or.inr ⟨es, hexpose, hend⟩)
        | _ => simp [leavesOfAll, hexpose] at h
  · rintro ⟨before, v, after, rfl, hbefore, hend⟩
    induction before generalizing i with
    | nil =>
      obtain ⟨es, hmap⟩ := hend.exists_expose
      rw [List.nil_append, leavesOfAll, hmap, leaves?_eq_none_iff.2 hend]
    | cons w before ih =>
      rw [List.cons_append, leavesOfAll_cons (hbefore w (by simp))]
      exact ih fun u hu => hbefore u (by simp [hu])

/-! ## Texts -/

/-- A document whose refusal cannot name its kind, behind documents that are objects. -/
def HasLongKind (r : ResourceDefaults) (docs : List Entries) : Prop :=
  ∃ (i : Nat) (d : Entries) (kind : Value) (rejection : Schema.Rejection), docs[i]? = some d ∧
    (∀ j < i, ∀ e, docs[j]? = some e → ∃ o, readObject r e = .ok o) ∧
    readObject r d = .error (.invalid kind rejection) ∧ kind.text? = none

/-- What is in a text that loading does not foresee. -/
inductive Unforeseen (r : ResourceDefaults) (text : Text) : Prop
  /-- A scalar has no value, as a date in a thirteenth month. -/
  | scalar {f : Yaml.ScalarFault} (h : Yaml.documents text = .error (.scalar f))
  /-- A list goes on without an end. -/
  | endless {vs : List Value} (h : Yaml.documents text = .ok vs) (he : HasEndless vs)
  /-- A kind is a number of too many digits. -/
  | kind {docs : List Entries} (h : loadDocuments text unnamedSource = .ok docs) (hk : HasLongKind r docs)

variable {r : ResourceDefaults} {text source : Text}

/-- The documents of a text are the same from every source. -/
theorem loadDocuments_eq_ok_iff {docs : List Entries} : loadDocuments text source = .ok docs ↔
    ∃ vs, Yaml.documents text = .ok vs ∧ leavesOfAll 0 vs = .ok docs := by
  unfold loadDocuments
  rcases Yaml.documents text with (_ | f) | vs
  · simp
  · simp
  · rcases hleaves : leavesOfAll 0 vs with (_ | _) | found <;> simp [hleaves]

theorem loadDocuments_eq_error {f : Failure} (h : loadDocuments text source = .error f) : f.IsManifest ∨
    (∃ fault, Yaml.documents text = .error (.scalar fault)) ∨ ∃ vs, Yaml.documents text = .ok vs ∧ HasEndless vs := by
  unfold loadDocuments at h
  split at h
  · exact Or.inl ⟨_, (Except.error.inj h).symm⟩
  · rename_i fault hscalar
    exact Or.inr (Or.inl ⟨fault, hscalar⟩)
  · rename_i vs hvs
    split at h
    · simp at h
    · exact Or.inl ⟨_, (Except.error.inj h).symm⟩
    · rename_i hendless
      exact Or.inr (Or.inr ⟨vs, hvs, leavesOfAll_eq_endless_iff.1 hendless⟩)

theorem parseObject_eq_tooManyDigits_iff {d : Entries} {i : Int} : parseObject r d source i = .error .tooManyDigits ↔
    ∃ kind rejection, readObject r d = .error (.invalid kind rejection) ∧ kind.text? = none := by
  unfold parseObject
  cases readObject r d with
  | ok o => simp
  | error fault =>
    cases fault with
    | noKind => simp [ObjectFault.failure]
    | invalid kind rejection =>
      cases htext : kind.text? <;> simp [ObjectFault.failure, htext]

/-- Among the refusals of documents, one kind has no source. -/
theorem parseObject_unforeseen_iff {d : Entries} {i : Int} :
    (∃ f, parseObject r d source i = .error f ∧ ¬ f.IsManifest) ↔ parseObject r d source i = .error .tooManyDigits := by
  constructor
  · rintro ⟨f, hf, hnot⟩
    obtain ⟨fault, rfl⟩ | ⟨rfl, _⟩ := parseObject_eq_error hf
    · exact absurd ⟨_, rfl⟩ hnot
    · exact hf
  · intro h
    exact ⟨.tooManyDigits, h, by simp [Failure.IsManifest]⟩

theorem loadText_of_documents_unforeseen_iff {docs : List Entries} (h : loadDocuments text source = .ok docs) :
    (∃ f, loadText r text source = .error f ∧ ¬ f.IsManifest) ↔ HasLongKind r docs := by
  constructor
  · rintro ⟨f, hf, hnot⟩
    obtain ⟨i, d, hd, hbefore, hparse⟩ := (loadText_eq_error_iff h).1 hf
    obtain ⟨kind, rejection, hread, hlong⟩ :=
      parseObject_eq_tooManyDigits_iff.1 (parseObject_unforeseen_iff.1 ⟨f, hparse, hnot⟩)
    exact ⟨i, d, kind, rejection, hd, hbefore, hread, hlong⟩
  · rintro ⟨i, d, kind, rejection, hd, hbefore, hread, hlong⟩
    obtain ⟨f, hparse, hnot⟩ :=
      parseObject_unforeseen_iff.2 (parseObject_eq_tooManyDigits_iff.2 ⟨kind, rejection, hread, hlong⟩)
    exact ⟨f, (loadText_eq_error_iff h).2 ⟨i, d, hd, hbefore, hparse⟩, hnot⟩

theorem loadText_of_error {f : Failure} (h : loadDocuments text source = .error f) :
    loadText r text source = .error f := by
  simp [loadText, h, bind, Except.bind]

theorem loadText_unforeseen_iff :
    (∃ f, loadText r text source = .error f ∧ ¬ f.IsManifest) ↔ Unforeseen r text := by
  constructor
  · rintro ⟨f, hf, hnot⟩
    cases hdocs : loadDocuments text source with
    | error g =>
      obtain rfl : g = f := Except.error.inj ((loadText_of_error hdocs).symm.trans hf)
      obtain hforeseen | ⟨fault, hscalar⟩ | ⟨vs, hvs, hendless⟩ := loadDocuments_eq_error hdocs
      · exact absurd hforeseen hnot
      · exact .scalar hscalar
      · exact .endless hvs hendless
    | ok docs =>
      have hhere : loadDocuments text unnamedSource = .ok docs :=
        loadDocuments_eq_ok_iff.2 (loadDocuments_eq_ok_iff.1 hdocs)
      exact .kind hhere ((loadText_of_documents_unforeseen_iff hdocs).1 ⟨f, hf, hnot⟩)
  · rintro (@⟨fault, h⟩ | ⟨h, hendless⟩ | ⟨h, hlong⟩)
    · have hdocs : loadDocuments text source = .error (.scalar fault) := by rw [loadDocuments, h]
      exact ⟨_, loadText_of_error hdocs, by simp [Failure.IsManifest]⟩
    · have hdocs : loadDocuments text source = .error .endless := by
        simp only [loadDocuments, h, leavesOfAll_eq_endless_iff.2 hendless]
      exact ⟨_, loadText_of_error hdocs, by simp [Failure.IsManifest]⟩
    · exact (loadText_of_documents_unforeseen_iff (loadDocuments_eq_ok_iff.2 (loadDocuments_eq_ok_iff.1 h))).2 hlong

/-! ## Paths -/

/-- A half of a character that stands for no byte of a name. -/
def IsNameless (c : CodePoint) : Prop := 0xD800 ≤ c.val ∧ c.val < 0xDC80 ∨ 0xDCFF < c.val ∧ c.val < 0xE000

theorem nameBytes?_eq_none_iff {c : CodePoint} : nameBytes? c = none ↔ IsNameless c := by
  have hc := c.isLt
  unfold nameBytes? IsNameless
  by_cases hvalid : c.val.isValidChar
  · have hrange : c.val < 0xD800 ∨ 0xDFFF < c.val ∧ c.val < 0x110000 := hvalid
    obtain ⟨ch, hchar⟩ : ∃ ch, c.char? = some ch := ⟨_, dif_pos hvalid⟩
    rw [hchar]
    simp
    omega
  · have hrange : ¬ (c.val < 0xD800 ∨ 0xDFFF < c.val ∧ c.val < 0x110000) := hvalid
    have hchar : c.char? = none := dif_neg hvalid
    rw [hchar]
    simp
    omega

theorem systemName_eq_error_iff (position : Nat) (cs : List CodePoint) :
    (∃ f, systemName position cs = .error f) ↔ ∃ c ∈ cs, IsNameless c := by
  induction cs generalizing position with
  | nil => simp [systemName]
  | cons c cs ih =>
    rw [List.exists_mem_cons_iff, ← nameBytes?_eq_none_iff, ← ih (position + 1), systemName]
    cases nameBytes? c with
    | none => simp
    | some bytes => cases systemName (position + 1) cs <;> simp [Except.map]

theorem exists_mem_pathParts {α : Type} [DecidableEq α] {slash dot c : α} (hslash : c ≠ slash) (hdot : c ≠ dot)
    (path : List α) : (∃ part ∈ pathParts slash dot path, c ∈ part) ↔ c ∈ path := by
  have hmem : (∃ part ∈ Text.cutAt slash path, c ∈ part) ↔ c ∈ path := by
    rw [← List.mem_flatten, Text.flatten_cutAt]
    simp [hslash]
  rw [← hmem]
  constructor
  · rintro ⟨part, hpart, hc⟩
    exact ⟨part, (List.mem_filter.1 hpart).1, hc⟩
  · rintro ⟨part, hpart, hc⟩
    refine ⟨part, List.mem_filter.2 ⟨hpart, ?_⟩, hc⟩
    have hnil : part ≠ [] := List.ne_nil_of_mem hc
    have hsingle : part ≠ [dot] := by
      rintro rfl
      exact hdot (List.mem_singleton.1 hc)
    simp [hnil, hsingle]

/-- The short spelling of a path has the code points of the path, slashes and dots apart. -/
theorem mem_normalPath (path : Text) {c : CodePoint} (hslash : c ≠ ('/' : CodePoint)) (hdot : c ≠ ('.' : CodePoint)) :
    c ∈ (normalPath path).points ↔ c ∈ path.points := by
  have hroot : c ∉ (pathRoot path).points := by
    have hone : c ∉ [('/' : CodePoint)] := by simpa using hslash
    have htwo : c ∉ [('/' : CodePoint), '/'] := by simpa using hslash
    unfold pathRoot
    split
    · exact List.not_mem_nil
    · exact htwo
    · exact hone
  have hsep : c ∉ ("/" : Text).points := by
    intro h
    exact hslash (List.mem_singleton.1 h)
  rw [← exists_mem_pathParts hslash hdot path.points]
  unfold normalPath
  dsimp only
  split
  · rename_i h
    rw [List.isEmpty_iff.1 h.2]
    constructor
    · intro hc
      exact absurd (List.mem_singleton.1 hc) hdot
    · simp
  · constructor
    · intro hc
      obtain hc | hc := List.mem_append.1 hc
      · exact absurd hc hroot
      · obtain ⟨t, ht, hct⟩ := (Text.mem_join_of_notMem hsep _).1 hc
        obtain ⟨part, hpart, rfl⟩ := List.mem_map.1 ht
        exact ⟨part, hpart, hct⟩
    · rintro ⟨part, hpart, hc⟩
      exact List.mem_append_right _ ((Text.mem_join_of_notMem hsep _).2 ⟨⟨part⟩, List.mem_map_of_mem hpart, hc⟩)

theorem exists_isNameless_normalPath {path : Text} :
    (∃ c ∈ (normalPath path).points, IsNameless c) ↔ ∃ c ∈ path.points, IsNameless c := by
  refine exists_congr fun c => and_congr_left fun hc => mem_normalPath path ?_ ?_
  · rintro rfl
    exact absurd hc (by unfold IsNameless; decide)
  · rintro rfl
    exact absurd hc (by unfold IsNameless; decide)

/-! ## Files -/

/-- What is in the bytes of a file that loading does not foresee: the bytes of no text, or a text that is not foreseen
itself once its lines all end alike. -/
def UnforeseenBytes (r : ResourceDefaults) (bytes : List UInt8) : Prop :=
  (∀ s : String, bytes ≠ s.toList.flatMap String.utf8EncodeChar) ∨
    ∃ s : String, bytes = s.toList.flatMap String.utf8EncodeChar ∧ Unforeseen r (String.ofList (plainLineEnds s.toList))

theorem loadFile_of_decoded {read : Reader} {path : Text} {name bytes : List UInt8} {s : String}
    (hname : systemName 0 (normalPath path).points = .ok name)
    (hnull : ('\x00' : CodePoint) ∉ (normalPath path).points) (hread : read name = .ok bytes)
    (hdecode : Text.decodeUtf8 bytes = .ok s) :
    loadFile r read path = loadText r (String.ofList (plainLineEnds s.toList)) (normalPath path) := by
  simp [loadFile, fileText, hname, hnull, hread, hdecode, bind, Except.bind]

/-- Once the bytes of a file are there, it is up to them. -/
theorem loadFile_unforeseen_iff_of_read {read : Reader} {path : Text} {name bytes : List UInt8}
    (hname : systemName 0 (normalPath path).points = .ok name)
    (hnull : ('\x00' : CodePoint) ∉ (normalPath path).points) (hread : read name = .ok bytes) :
    (∃ f, loadFile r read path = .error f ∧ ¬ f.IsManifest) ↔ UnforeseenBytes r bytes := by
  cases hdecode : Text.decodeUtf8 bytes with
  | error fault =>
    have hload : loadFile r read path = .error (.undecodable fault) := by
      simp [loadFile, fileText, hname, hnull, hread, hdecode, bind, Except.bind]
    have hno : ∀ s : String, bytes ≠ s.toList.flatMap String.utf8EncodeChar := fun s hs => by
      simp [Text.decodeUtf8_eq_ok_iff.2 hs] at hdecode
    simp [hload, Failure.IsManifest, UnforeseenBytes, hno]
  | ok s =>
    have hbytes := Text.decodeUtf8_eq_ok_iff.1 hdecode
    rw [loadFile_of_decoded hname hnull hread hdecode, loadText_unforeseen_iff]
    constructor
    · intro h
      exact Or.inr ⟨s, hbytes, h⟩
    · rintro (h | ⟨s', hs', h⟩)
      · exact absurd hbytes (h s)
      · obtain rfl : s' = s := Except.ok.inj ((Text.decodeUtf8_eq_ok_iff.2 hs').symm.trans hdecode)
        exact h

theorem loadFile_unforeseen_iff {read : Reader} {path : Text} :
    (∃ f, loadFile r read path = .error f ∧ ¬ f.IsManifest) ↔
      (∃ c ∈ path.points, IsNameless c) ∨ ('\x00' : CodePoint) ∈ path.points ∨
        ∃ name bytes, systemName 0 (normalPath path).points = .ok name ∧ read name = .ok bytes ∧
          UnforeseenBytes r bytes := by
  rw [← exists_isNameless_normalPath, ← systemName_eq_error_iff 0, ← mem_normalPath path (by decide) (by decide)]
  cases hname : systemName 0 (normalPath path).points with
  | error fault =>
    have hload : loadFile r read path = .error (.unnameable fault) := by
      simp [loadFile, fileText, hname, bind, Except.bind]
    simp [hload, Failure.IsManifest]
  | ok name =>
    by_cases hnull : ('\x00' : CodePoint) ∈ (normalPath path).points
    · have hload : loadFile r read path = .error .nullInPath := by
        simp [loadFile, fileText, hname, hnull, bind, Except.bind]
      simp [hload, Failure.IsManifest, hnull]
    · cases hread : read name with
      | error fault =>
        have hload : loadFile r read path =
            .error (.manifest { detail := .file (normalPath path) fault, source := normalPath path }) := by
          simp [loadFile, fileText, hname, hnull, hread, bind, Except.bind]
        simp [hload, Failure.IsManifest, hnull, hread]
      | ok bytes => simp [loadFile_unforeseen_iff_of_read hname hnull hread, hnull, hread]

/-- **Where loading ends in neither a bundle nor an error with a source.** For a text, exactly where it holds what is
not foreseen; for a file, however files are read, exactly where its path holds a half of a character that has no place
in a name, or U+0000, or its bytes are those of no text or of such a text. -/
theorem unforeseen_load_iff (r : ResourceDefaults) :
    (∀ text source, (∃ f, loadText r text source = .error f ∧ ¬ f.IsManifest) ↔ Unforeseen r text) ∧
      ∀ (read : Reader) path, (∃ f, loadFile r read path = .error f ∧ ¬ f.IsManifest) ↔
        (∃ c ∈ path.points, IsNameless c) ∨ ('\x00' : CodePoint) ∈ path.points ∨
          ∃ name bytes, systemName 0 (normalPath path).points = .ok name ∧ read name = .ok bytes ∧
            UnforeseenBytes r bytes :=
  ⟨fun _ _ => loadText_unforeseen_iff, fun _ _ => loadFile_unforeseen_iff⟩

/-- A date in a thirteenth month, and a file of one byte that starts no character. -/
theorem unforeseen_month_and_byte :
    loadText {} "kind: Sequence\nmetadata: {name: 2026-13-45}" unnamedSource = .error (.scalar .month) ∧
      loadFile {} (FileTree.ofList [("a.yaml", [0xFF])]).read "a.yaml" =
        .error (.undecodable ⟨0, [0xFF], "invalid start byte"⟩) := by
  refine ⟨by decide +kernel, by decide +kernel⟩

end Readiness.Manifest
