import Mathlib.Data.List.Forall2
import Readiness.Manifest.Load

/-!
# From documents to a bundle

The documents of a text are read one after another, up to the first one that is refused. A bundle sorts the objects by
class and forgets nothing: each list is what a class picks out of the objects, in their order, so that no document is
lost, doubled or moved (`ofList_eq`, `size_ofList`).

A refusal says where it happened: its index counts all documents before it, whatever they were read as, and what comes
after plays no part (`parseAll_eq_error_iff`).
-/
namespace Readiness.Manifest

open Schema

/-! ## Bundles -/

namespace Object

def sequence? : Object → Option Sequence
  | .sequence s => some s
  | _ => none

def channel? : Object → Option Channel
  | .channel c => some c
  | _ => none

def subscription? : Object → Option Subscription
  | .subscription s => some s
  | _ => none

end Object

namespace Bundle

theorem foldl_add (os : List Object) (b : Bundle) :
    os.foldl add b = ⟨b.sequences ++ os.filterMap Object.sequence?, b.channels ++ os.filterMap Object.channel?,
      b.subscriptions ++ os.filterMap Object.subscription?⟩ := by
  induction os generalizing b with
  | nil => simp
  | cons o os ih =>
    rw [List.foldl_cons, ih]
    cases o <;> simp [add, List.filterMap_cons, Object.sequence?, Object.channel?, Object.subscription?]

/-- Each class in order, and nothing else. -/
theorem ofList_eq (os : List Object) : ofList os =
    ⟨os.filterMap Object.sequence?, os.filterMap Object.channel?, os.filterMap Object.subscription?⟩ :=
  foldl_add os {}

theorem size_add (b : Bundle) (o : Object) : (b.add o).size = b.size + 1 := by
  cases o <;> simp [add, size] <;> omega

theorem size_ofList (os : List Object) : (ofList os).size = os.length := by
  have hfold : ∀ b : Bundle, (os.foldl add b).size = b.size + os.length := by
    induction os with
    | nil => intro b; rfl
    | cons o os ih =>
      intro b
      rw [List.foldl_cons, ih, size_add, List.length_cons]
      omega
  exact (hfold {}).trans (Nat.zero_add _)

end Bundle

/-! ## Single documents -/

variable {r : ResourceDefaults} {source : Text}

/-- Whether a document is an object has nothing to do with where it stands. -/
theorem parseObject_eq_ok_iff {d : Entries} {i : Int} {o : Object} :
    parseObject r d source i = .ok o ↔ readObject r d = .ok o := by
  unfold parseObject
  cases readObject r d <;> simp

/-- With the defaults that are in force, whether or not they have been read before. -/
theorem parse_fst (s : Settings) (d : Entries) (source : Text) (i : Int) :
    (parse s d source i).1 = parseObject s.current.resource d source i := by
  unfold parse
  cases hkind : kind? d with
  | none => simp [parseObject, readObject, hkind, ObjectFault.failure]
  | some kind => rfl

/-- A refusal is an error with source and index, unless it cannot name the kind of the document. -/
theorem parseObject_eq_error {d : Entries} {i : Int} {f : Failure} (h : parseObject r d source i = .error f) :
    (∃ fault, f = .manifest ⟨.object fault, source, i⟩) ∨
      (f = .tooManyDigits ∧ ∃ kind, kind? d = some kind ∧ kind.text? = none) := by
  unfold parseObject at h
  cases hread : readObject r d with
  | ok o => simp [hread] at h
  | error fault =>
    rw [hread] at h
    obtain rfl : fault.failure source i = f := by simpa using h
    cases fault with
    | noKind => exact Or.inl ⟨.noKind, rfl⟩
    | invalid kind rejection =>
      by_cases htext : kind.text?.isNone = true
      · refine Or.inr ⟨if_pos htext, kind, ?_, Option.isNone_iff_eq_none.1 htext⟩
        unfold readObject at hread
        cases hkind : kind? d with
        | none => simp [hkind] at hread
        | some found =>
          simp only [hkind] at hread
          split at hread
          · simp at hread
          · simp only [Except.error.injEq, ObjectFault.invalid.injEq] at hread
            rw [hread.1]
      · exact Or.inl ⟨.invalid kind rejection, if_neg htext⟩

/-! ## All documents -/

theorem parseAll_cons (i : Nat) (d : Entries) (ds : List Entries) :
    parseAll r source i (d :: ds) =
      (parseObject r d source i).bind fun o => (parseAll r source (i + 1) ds).map (o :: ·) := by
  rw [parseAll]
  cases parseObject r d source i with
  | error f => rfl
  | ok o => cases parseAll r source (i + 1) ds <;> rfl

/-- Every document becomes one object. -/
theorem parseAll_eq_ok_iff {i : Nat} {ds : List Entries} {os : List Object} :
    parseAll r source i ds = .ok os ↔ List.Forall₂ (fun d o => readObject r d = .ok o) ds os := by
  induction ds generalizing i os with
  | nil => simp [parseAll, eq_comm]
  | cons d ds ih =>
    rw [parseAll_cons, List.forall₂_cons_left_iff]
    constructor
    · intro h
      cases hd : parseObject r d source i with
      | error f => simp [hd, Except.bind] at h
      | ok o =>
        cases hds : parseAll r source (i + 1) ds with
        | error f => simp [hd, hds, Except.bind, Except.map] at h
        | ok rest =>
          obtain rfl : o :: rest = os := by simpa [hd, hds, Except.bind, Except.map] using h
          exact ⟨o, rest, parseObject_eq_ok_iff.1 hd, ih.1 hds, rfl⟩
    · rintro ⟨o, rest, hd, hds, rfl⟩
      rw [parseObject_eq_ok_iff.2 hd, (ih (i := i + 1)).2 hds]
      rfl

/-- The first document that is refused ends it. -/
theorem parseAll_eq_error_iff {i : Nat} {ds : List Entries} {f : Failure} :
    parseAll r source i ds = .error f ↔
      ∃ k d, ds[k]? = some d ∧ (∀ j < k, ∀ e, ds[j]? = some e → ∃ o, readObject r e = .ok o) ∧
        parseObject r d source ((i + k : Nat) : Int) = .error f := by
  induction ds generalizing i with
  | nil => simp [parseAll]
  | cons d ds ih =>
    rw [parseAll_cons]
    cases hd : parseObject r d source i with
    | error g =>
      refine ⟨fun h : Except.error g = _ => ⟨0, d, rfl, by simp, hd.trans (congrArg _ (Except.error.inj h))⟩, ?_⟩
      rintro ⟨k, e, hk, hbefore, he⟩
      cases k with
      | zero =>
        obtain rfl : d = e := by simpa using hk
        exact congrArg _ (Except.error.inj (hd.symm.trans he))
      | succ k =>
        obtain ⟨o, ho⟩ := hbefore 0 (Nat.succ_pos k) d rfl
        simp [parseObject_eq_ok_iff.2 ho] at hd
    | ok o =>
      have hrest : (Except.ok o).bind (fun o => (parseAll r source (i + 1) ds).map (o :: ·)) = Except.error f ↔
          parseAll r source (i + 1) ds = .error f := by
        cases parseAll r source (i + 1) ds <;> simp [Except.bind, Except.map]
      rw [hrest, ih]
      constructor
      · rintro ⟨k, e, hk, hbefore, he⟩
        refine ⟨k + 1, e, hk, fun j hj e' he' => ?_, by rwa [Nat.add_assoc, Nat.add_comm 1] at he⟩
        cases j with
        | zero =>
          obtain rfl : d = e' := by simpa using he'
          exact ⟨o, parseObject_eq_ok_iff.1 hd⟩
        | succ j => exact hbefore j (Nat.lt_of_succ_lt_succ hj) e' he'
      · rintro ⟨k, e, hk, hbefore, he⟩
        cases k with
        | zero =>
          obtain rfl : d = e := by simpa using hk
          have : parseObject r d source i = .error f := he
          simp [hd] at this
        | succ k =>
          refine ⟨k, e, hk, fun j hj e' he' => hbefore (j + 1) (Nat.succ_lt_succ hj) e' he', ?_⟩
          rwa [Nat.add_assoc, Nat.add_comm 1]

section
variable {text : Text} {docs : List Entries} (h : loadDocuments text source = .ok docs)
include h

theorem loadText_of_loadDocuments : loadText r text source = (parseAll r source 0 docs).map .ofList := by
  unfold loadText
  rw [h]
  cases hall : parseAll r source 0 docs <;> simp [bind, Except.bind, Except.map, hall, pure, Except.pure]

theorem loadText_eq_ok_iff {b : Bundle} : loadText r text source = .ok b ↔
    ∃ os, List.Forall₂ (fun d o => readObject r d = .ok o) docs os ∧ b = .ofList os := by
  rw [loadText_of_loadDocuments h]
  constructor
  · intro hb
    cases hall : parseAll r source 0 docs with
    | error f => simp [hall, Except.map] at hb
    | ok os =>
      refine ⟨os, parseAll_eq_ok_iff.1 hall, ?_⟩
      simpa [hall, Except.map, eq_comm] using hb
  · rintro ⟨os, hos, rfl⟩
    rw [parseAll_eq_ok_iff.2 hos]
    rfl

theorem loadText_eq_error_iff {f : Failure} : loadText r text source = .error f ↔
    ∃ (i : Nat) (d : Entries), docs[i]? = some d ∧
      (∀ j < i, ∀ e, docs[j]? = some e → ∃ o, readObject r e = .ok o) ∧ parseObject r d source i = .error f := by
  have hmap : loadText r text source = .error f ↔ parseAll r source 0 docs = .error f := by
    rw [loadText_of_loadDocuments h]
    cases parseAll r source 0 docs <;> simp [Except.map]
  rw [hmap, parseAll_eq_error_iff]
  simp only [Nat.zero_add]

/-- A text loads if every document of it is an object. -/
theorem exists_loadText_iff : (∃ b, loadText r text source = .ok b) ↔
    ∀ (i : Nat) d, docs[i]? = some d → ∃ o, readObject r d = .ok o := by
  constructor
  · rintro ⟨b, hb⟩ i d hd
    obtain ⟨os, hos, _⟩ := (loadText_eq_ok_iff h).1 hb
    obtain ⟨k, hk, rfl⟩ := List.getElem_of_mem (List.mem_of_getElem? hd)
    exact ⟨_, hos.get hk (hos.length_eq ▸ hk)⟩
  · intro hevery
    cases hload : loadText r text source with
    | ok b => exact ⟨b, rfl⟩
    | error f =>
      obtain ⟨i, d, hi, _, hd⟩ := (loadText_eq_error_iff h).1 hload
      obtain ⟨o, ho⟩ := hevery i d hi
      simp [parseObject_eq_ok_iff.2 ho] at hd

end

/-- **Loading conserves documents.** Of the documents of a text, which are read with the settings in force, either every
one becomes one object, and the bundle is made of these, by class and in their order; or the first that is refused ends
the loading with its own failure. That is an error with the source and the index of the document, unless the kind that it
would have to name holds a number of too many digits. -/
theorem load_of_documents (s : Settings) {text source : Text} {docs : List Entries}
    (h : loadDocuments text source = .ok docs) :
    ((∃ b, loadText s.current.resource text source = .ok b) ↔
      ∀ (i : Nat) d, docs[i]? = some d → ∃ o, (parse s d source i).1 = .ok o) ∧
    (∀ b, loadText s.current.resource text source = .ok b →
      ∃ os : List Object, List.Forall₂ (fun d o => ∀ i, (parse s d source i).1 = .ok o) docs os ∧
        b = ⟨os.filterMap Object.sequence?, os.filterMap Object.channel?, os.filterMap Object.subscription?⟩ ∧
        b.size = docs.length) ∧
    (∀ f, loadText s.current.resource text source = .error f ↔
      ∃ (i : Nat) (d : Entries), docs[i]? = some d ∧
        (∀ j < i, ∀ e, docs[j]? = some e → ∃ o, (parse s e source j).1 = .ok o) ∧
        (parse s d source i).1 = .error f) ∧
    (∀ (i : Nat) d f, (parse s d source i).1 = .error f →
      (∃ fault, f = .manifest ⟨.object fault, source, i⟩) ∨
        (f = .tooManyDigits ∧ ∃ kind, kind? d = some kind ∧ kind.text? = none)) := by
  simp only [parse_fst, parseObject_eq_ok_iff]
  refine ⟨exists_loadText_iff h, fun b hb => ?_, fun f => loadText_eq_error_iff h, fun i d f => parseObject_eq_error⟩
  obtain ⟨os, hos, rfl⟩ := (loadText_eq_ok_iff h).1 hb
  exact ⟨os, hos.imp fun d o hd _ => hd, Bundle.ofList_eq os, (Bundle.size_ofList os).trans hos.length_eq.symm⟩

/-- A stream of three documents, the second of which is a list of two. -/
def mixedStream : Text :=
  "kind: Sequence\n---\nkind: List\nitems: [{kind: X}, {kind: Subscription}]\n---\nkind: Y\n"

theorem load_of_mixed_documents :
    let docs : List Entries := [[(.str "kind", .str "Sequence")], [(.str "kind", .str "X")],
      [(.str "kind", .str "Subscription")], [(.str "kind", .str "Y")]]
    loadDocuments mixedStream unnamedSource = .ok docs ∧
      ((∃ b, loadText {} mixedStream unnamedSource = .ok b) ↔
        ∀ (i : Nat) d, docs[i]? = some d → ∃ o, (parse {} d unnamedSource i).1 = .ok o) := by
  have h : loadDocuments mixedStream unnamedSource = .ok [[(.str "kind", .str "Sequence")], [(.str "kind", .str "X")],
      [(.str "kind", .str "Subscription")], [(.str "kind", .str "Y")]] := by decide +kernel
  exact ⟨h, (load_of_documents {} h).1⟩

/-! ## Kinds that cannot be named -/

theorem displayInt?_eq_none {n : Int} (h : Nat.pow 10 Text.mostDigits ≤ n.natAbs) : Value.displayInt? n = none := by
  have hlong : ∀ k, 0 < k → Nat.pow 10 k ≤ n.natAbs → ¬ (Nat.toDigits 10 n.natAbs).length ≤ k := by
    intro k hpos hk
    rw [Nat.length_toDigits_le_iff (by decide) hpos]
    exact Nat.not_lt.2 hk
  exact if_neg (hlong Text.mostDigits (by decide) h)

/-- A kind that is a number is refused, and where the number is too long, so is the error that would name it. -/
theorem parseObject_of_long_kind {n i : Int} (h : Nat.pow 10 Text.mostDigits ≤ n.natAbs) :
    parseObject r [(.str "kind", .int n)] source i = .error .tooManyDigits := by
  have hne : n ≠ 0 := by
    have hpos : ∀ k, 0 < Nat.pow 10 k := fun _ => Nat.pow_pos (by decide)
    rintro rfl
    exact Nat.not_le.2 (hpos _) h
  have hkind : kind? [(.str "kind", .int n)] = some (.int n) := by
    simp [kind?, Entries.get?, Option.filter, Value.isSome, Value.expose, hne]
  have hdecode : Channel.decode (.map [(.str "kind", .int n)]) = .rejected [⟨[.name "kind"], .notText⟩] := rfl
  have htext : (Value.int n).text? = none := by
    simp [Value.text?, Value.display?, Value.displayIn, displayInt?_eq_none h]
  simp [parseObject, readObject, hkind, decoderOf, hdecode, Decoded.toExcept, ObjectFault.failure, htext]

/-- A kind of 3572 hexadecimal digits, which are 4302 decimal ones: the refusal has no source and no index. -/
theorem failure_of_long_kind :
    (parse {} [(.str "kind", .int (Nat.pow 16 3572 - 1 : Nat))] unnamedSource 0).1 = .error .tooManyDigits := by
  have h : Nat.pow 10 Text.mostDigits ≤ ((Nat.pow 16 3572 - 1 : Nat) : Int).natAbs := by decide +kernel
  rw [parse_fst, parseObject_of_long_kind h]

end Readiness.Manifest
