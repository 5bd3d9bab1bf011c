import Readiness.Proofs.Manifest.Leaves

/-!
# Where refused objects come from

An error with an index is about a document of the stream. If that document is no mapping at all, the index is its place
in the stream. If it holds an object that is refused, the index counts objects: those of the documents before, and those
that come before the refused one in its own document (`origin_of_refusal`).

So a document before shifts the index away from the place by one less than the objects that it holds: an empty one shifts
it down by one, and a list of three up by two (`misplaced_refusals`).
-/
namespace Readiness.Manifest

/-- A document holds an object. The documents before it hold the objects `seen`, and it holds the objects `earlier`
before that one. -/
structure Holds (before : List Value) (v : Value) (seen earlier : List Entries) (d : Entries) : Prop where
  seen : Leaves before seen
  own : ∃ later, Leaves [v] (earlier ++ d :: later)

variable {r : ResourceDefaults} {text source : Text} {e : Error} {vs : List Value} {docs : List Entries} {d : Entries}
  {k : Nat}

/-- Every leaf of a stream is held by one of its documents. -/
theorem exists_holds (h : Leaves vs docs) (hk : docs[k]? = some d) :
    ∃ before v after seen earlier, vs = before ++ v :: after ∧ Holds before v seen earlier d ∧
      docs.take k = seen ++ earlier := by
  induction vs generalizing docs k with
  | nil =>
    cases h
    simp at hk
  | cons v vs ih =>
    obtain ⟨own, rest, hown, hrest, rfl⟩ := leaves_cons_iff.1 h
    by_cases hlt : k < own.length
    · -- The leaf is in the first document.
      rw [List.getElem?_append_left hlt] at hk
      obtain ⟨_, hd⟩ := List.getElem?_eq_some_iff.1 hk
      refine ⟨[], v, vs, [], own.take k, rfl, ⟨.nil, own.drop (k + 1), ?_⟩, ?_⟩
      · rwa [← hd, ← List.drop_eq_getElem_cons hlt, List.take_append_drop]
      · rw [List.take_append_of_le_length (Nat.le_of_lt hlt), List.nil_append]
    · have hle : own.length ≤ k := Nat.le_of_not_lt hlt
      rw [List.getElem?_append_right hle] at hk
      obtain ⟨before, w, after, seen, earlier, rfl, hholds, htake⟩ := ih hrest hk
      refine ⟨v :: before, w, after, own ++ seen, earlier, rfl, ⟨hown.append hholds.seen, hholds.own⟩, ?_⟩
      rw [List.take_append, List.take_of_length_le hle, htake, List.append_assoc]

/-- The leaves of a stream are those of its documents, one after another. -/
theorem exists_shares (h : Leaves vs docs) : ∃ shares : List (List Entries),
    List.Forall₂ (fun v share => Leaves [v] share) vs shares ∧ docs = shares.flatten := by
  induction vs generalizing docs with
  | nil =>
    cases h
    exact ⟨[], .nil, rfl⟩
  | cons v vs ih =>
    obtain ⟨own, rest, hown, hrest, rfl⟩ := leaves_cons_iff.1 h
    obtain ⟨shares, hshares, rfl⟩ := ih hrest
    exact ⟨own :: shares, .cons hown hshares, rfl⟩

/-- How far documents with these shares of objects move the indices of those behind them away from their places. -/
def shift : List (List Entries) → Int
  | [] => 0
  | share :: shares => (share.length - 1) + shift shares

theorem length_add_shift (shares : List (List Entries)) :
    (shares.length : Int) + shift shares = shares.flatten.length := by
  induction shares with
  | nil => rfl
  | cons share shares ih =>
    rw [List.flatten_cons, List.length_append, List.length_cons, shift]
    omega

theorem failure_eq_manifest {fault : ObjectFault} {i : Int} (h : fault.failure source i = .manifest e) :
    e = ⟨.object fault, source, i⟩ := by
  cases fault with
  | noKind => exact (Failure.manifest.inj h).symm
  | invalid kind rejection =>
    simp only [ObjectFault.failure] at h
    split at h
    · simp at h
    · exact (Failure.manifest.inj h).symm

theorem parseObject_eq_manifest {i : Int} (h : parseObject r d source i = .error (.manifest e)) :
    ∃ fault, readObject r d = .error fault ∧ e = ⟨.object fault, source, i⟩ := by
  unfold parseObject at h
  cases hread : readObject r d with
  | ok o => simp [hread] at h
  | error fault =>
    rw [hread] at h
    exact ⟨fault, rfl, failure_eq_manifest (Except.error.inj h)⟩

theorem loadDocuments_eq_manifest (h : loadDocuments text source = .error (.manifest e)) (hindex : 0 ≤ e.index) :
    ∃ before v after, Yaml.documents text = .ok (before ++ v :: after) ∧ ¬ IsDocument v ∧
      e = ⟨.notMapping v.kindName, source, before.length⟩ := by
  unfold loadDocuments at h
  split at h
  · obtain rfl := Failure.manifest.inj (Except.error.inj h)
    simp at hindex
  · simp at h
  · rename_i vs hvs
    split at h
    · simp at h
    · rename_i i kind hleaves
      obtain ⟨before, v, after, rfl, -, hno, hi, rfl⟩ := leavesOfAll_eq_notMapping_iff.1 hleaves
      refine ⟨before, v, after, hvs, hno, ?_⟩
      rw [← Failure.manifest.inj (Except.error.inj h), hi, Nat.zero_add]
    · simp at h

/-- **What an index counts.** An error with an index is about a document of the stream, with others before it. Where that
document is no mapping, the index is its place. Where it holds the first object that is refused, the index is the number
of objects before that one. That is the place of the document, shifted by each document before it by one less than the
objects in that one, and by the objects that come earlier in the same document. -/
theorem origin_of_refusal (h : loadText r text source = .error (.manifest e)) (hindex : 0 ≤ e.index) :
    ∃ before v after, Yaml.documents text = .ok (before ++ v :: after) ∧
      ((¬ IsDocument v ∧ e = ⟨.notMapping v.kindName, source, before.length⟩) ∨
        ∃ seen earlier d fault, Holds before v seen earlier d ∧
          (∀ c ∈ seen ++ earlier, ∃ o, readObject r c = .ok o) ∧ readObject r d = .error fault ∧
          e = ⟨.object fault, source, (seen ++ earlier).length⟩ ∧
          ∃ shares, List.Forall₂ (fun w share => Leaves [w] share) before shares ∧ seen = shares.flatten ∧
            e.index = before.length + shift shares + earlier.length) := by
  cases hdocs : loadDocuments text source with
  | error f =>
    obtain rfl : f = .manifest e := Except.error.inj ((loadText_of_error hdocs).symm.trans h)
    obtain ⟨before, v, after, hvs, hno, he⟩ := loadDocuments_eq_manifest hdocs hindex
    exact ⟨before, v, after, hvs, Or.inl ⟨hno, he⟩⟩
  | ok docs =>
    obtain ⟨vs, hvs, hleaves⟩ := loadDocuments_eq_ok_iff.1 hdocs
    obtain ⟨k, d, hk, hbefore, hparse⟩ := (loadText_eq_error_iff hdocs).1 h
    obtain ⟨fault, hread, he⟩ := parseObject_eq_manifest hparse
    obtain ⟨before, v, after, seen, earlier, rfl, hholds, htake⟩ :=
      exists_holds (leavesOfAll_eq_ok_iff.1 hleaves).2 hk
    have hlength : (seen ++ earlier).length = k := by
      rw [← htake, List.length_take]
      exact Nat.min_eq_left (Nat.le_of_lt (List.getElem?_eq_some_iff.1 hk).1)
    have hcount : e.index = (seen ++ earlier).length := by rw [he, hlength]
    obtain ⟨shares, hshares, rfl⟩ := exists_shares hholds.seen
    refine ⟨before, v, after, hvs,
      Or.inr ⟨_, earlier, d, fault, hholds, ?_, hread, hlength ▸ he, shares, hshares, rfl, ?_⟩⟩
    · intro c hc
      rw [← htake] at hc
      obtain ⟨j, hj, rfl⟩ := List.mem_take_iff_getElem.1 hc
      exact hbefore j (by omega) _ (List.getElem?_eq_getElem _)
    · rw [hcount, List.length_append, hshares.length_eq, length_add_shift]
      rfl

/-- Behind an empty document and a list of two, the third document is refused with index 2: two objects come before, for
the one shifts the index down and the other one up. -/
theorem origin_of_refusal_behind_list :
    let text : Text := "---\n---\nkind: List\nitems: [{kind: X}, {kind: Y}]\n---\nmetadata: {name: z}\n"
    let e : Error := ⟨.object .noKind, unnamedSource, 2⟩
    loadText {} text unnamedSource = .error (.manifest e) ∧ 0 ≤ e.index ∧
      ∃ before v after seen earlier d, Yaml.documents text = .ok (before ++ v :: after) ∧
        Holds before v seen earlier d ∧ readObject {} d = .error .noKind ∧ (seen ++ earlier).length = 2 := by
  intro text e
  have h : loadText {} text unnamedSource = .error (.manifest e) := by decide +kernel
  have hindex : 0 ≤ e.index := by decide
  refine ⟨h, hindex, ?_⟩
  obtain ⟨before, v, after, hvs, ⟨-, he⟩ | ⟨seen, earlier, d, fault, hholds, -, hread, he, -⟩⟩ :=
    origin_of_refusal h hindex
  · simp [e] at he
  · obtain ⟨hfault, hlength⟩ : ObjectFault.noKind = fault ∧ (2 : Int) = (seen ++ earlier).length := by
      simpa [e] using he
    exact ⟨before, v, after, seen, earlier, d, hvs, hholds, hfault ▸ hread, by omega⟩

/-- Behind an empty document the index is too small, and within a list it is too large. -/
theorem misplaced_refusals :
    let metadata : Value := .map [(.str "metadata", .map [])]
    let x : Value := .map [(.str "kind", .str "X")]
    let afterEmpty : Text := "---\n---\nmetadata: {}\n"
    let inList : Text := "kind: List\nitems: [{kind: X}, {metadata: {}}]\n"
    Yaml.documents afterEmpty = .ok [.null, metadata] ∧
      loadText {} afterEmpty unnamedSource = .error (.manifest ⟨.object .noKind, unnamedSource, 0⟩) ∧
      Yaml.documents inList = .ok [.map [(.str "kind", .str "List"), (.str "items", .list [x, metadata])]] ∧
      loadText {} inList unnamedSource = .error (.manifest ⟨.object .noKind, unnamedSource, 1⟩) := by
  refine ⟨by decide +kernel, by decide +kernel, by decide +kernel, by decide +kernel⟩

end Readiness.Manifest
