import Readiness.Proofs.Manifest.Failures
import Readiness.Proofs.Schema.Reading
import Readiness.Proofs.Text.Utf8

/-!
# The class of an object and its kind

The kind of a document chooses the class that the document is read as, and is then read like every other field, as a
text. A kind that is given as a text is stored as it is, so that the class is the one of the kind that is stored. Of the
other values only bytes can be read as a text, and they choose a channel, whatever they encode (`chosen_iff_of_read`):
where they encode the name of the sequences or of the subscriptions, an object of that kind ends up among the channels
(`channel_named_in_bytes`).
-/
namespace Readiness.Manifest

open Schema

namespace Object

def identity : Object → Identity
  | .sequence s => s.identity
  | .subscription s => s.identity
  | .channel c => c.identity

/-- The kind that is stored in an object. -/
def kind (o : Object) : Text := o.identity.kind

/-- The class of an object is the one that a kind chooses. -/
def IsFor (r : ResourceDefaults) (kind : Value) : Object → Prop
  | .sequence _ => kind = .str r.kind
  | .subscription _ => kind ≠ .str r.kind ∧ kind = .str r.subscriptionKind
  | .channel _ => kind ≠ .str r.kind ∧ kind ≠ .str r.subscriptionKind

end Object

/-- A kind that has a class of its own. -/
def IsReserved (r : ResourceDefaults) (kind : Text) : Prop := kind = r.kind ∨ kind = r.subscriptionKind

/-- The kind of a document is given as the bytes that encode a reserved one. -/
def NamesInBytes (r : ResourceDefaults) (es : Entries) : Prop :=
  ∃ name : String, es.get? "kind" = some (.bytes (name.toList.flatMap String.utf8EncodeChar)) ∧ IsReserved r name

variable {r : ResourceDefaults} {es : Entries} {o : Object}

/-! ## Reading the kind -/

theorem text_eq_accepted_iff {v : Value} {t : Text} : Decoder.text v = .accepted t ↔
    v = .str t ∨ ∃ s : String, v = .bytes (s.toList.flatMap String.utf8EncodeChar) ∧ t = s := by
  cases v with
  | str t' => simp [Decoder.text]
  | bytes bs =>
    cases hdecode : Text.decodeUtf8 bs with
    | error fault =>
      have hno : ∀ s : String, bs ≠ s.toList.flatMap String.utf8EncodeChar := fun s hs => by
        simp [Text.decodeUtf8_eq_ok_iff.2 hs] at hdecode
      simp [Decoder.text, Decoder.Content.of, hdecode, Except.toOption, Decoded.reject, hno]
    | ok s =>
      have hbytes : ∀ s' : String, bs = s'.toList.flatMap String.utf8EncodeChar ↔ s' = s := fun s' => by
        rw [← Text.decodeUtf8_eq_ok_iff, hdecode, Except.ok.injEq, eq_comm]
      simp [Decoder.text, Decoder.Content.of, hdecode, Except.toOption, hbytes, eq_comm]
  | _ => simp [Decoder.text, Decoder.Content.of, Decoded.reject]

theorem get?_of_kind? {kind : Value} (h : kind? es = some kind) : es.get? "kind" = some kind :=
  (Option.filter_eq_some_iff.1 h).1

theorem text_of_ofEntries {i : Identity} {kind : Value} (h : Identity.ofEntries es = .accepted i)
    (hkind : es.get? "kind" = some kind) : Decoder.text kind = .accepted i.kind := by
  simp only [Identity.ofEntries, seq_eq_accepted_iff, map_eq_accepted_iff] at h
  obtain ⟨_, _, ⟨_, stored, ⟨_, _, rfl⟩, hstored, rfl⟩, _, rfl⟩ := h
  have hgiven : kindField.given? es = some ("kind", kind) := by
    unfold FieldName.given?
    rw [show (kindField.key : Text) = "kind" from rfl, hkind]
    rfl
  simp only [FieldName.decode, hgiven] at hstored
  cases hread : Decoder.text kind with
  | rejected issues => simp [hread, Decoded.within] at hstored
  | accepted t =>
    rw [hread] at hstored
    exact congrArg _ (Decoded.accepted.inj hstored)

/-- What the models have in common: an identity, a spec and a status, read from the entries of the document. -/
theorem exists_identity_of_record {α β γ : Type} {model : String} {mk : Identity → β → γ → α}
    {spec : Entries → Decoded β} {status : Entries → Decoded γ} {a : α}
    (h : record model (fun es => mk <$> Identity.ofEntries es <*> spec es <*> status es) (.map es) = .accepted a) :
    ∃ i b c, Identity.ofEntries es = .accepted i ∧ mk i b c = a := by
  simp only [record, Value.expose, seq_eq_accepted_iff, map_eq_accepted_iff] at h
  obtain ⟨_, c, ⟨_, b, ⟨i, hi, rfl⟩, _, rfl⟩, _, rfl⟩ := h
  exact ⟨i, b, c, hi, rfl⟩

theorem identity_of_decoderOf {kind : Value} (h : decoderOf r kind (.map es) = .accepted o) :
    Identity.ofEntries es = .accepted o.identity ∧ o.IsFor r kind := by
  unfold decoderOf at h
  split at h
  · rename_i hsequence
    obtain ⟨s, hs, rfl⟩ := map_eq_accepted_iff.1 h
    obtain ⟨i, _, _, hi, rfl⟩ := exists_identity_of_record hs
    exact ⟨hi, hsequence⟩
  · rename_i hsequence
    split at h
    · rename_i hsubscription
      obtain ⟨s, hs, rfl⟩ := map_eq_accepted_iff.1 h
      obtain ⟨i, _, _, hi, rfl⟩ := exists_identity_of_record hs
      exact ⟨hi, hsequence, hsubscription⟩
    · rename_i hsubscription
      obtain ⟨c, hc, rfl⟩ := map_eq_accepted_iff.1 h
      obtain ⟨i, _, _, hi, rfl⟩ := exists_identity_of_record hc
      exact ⟨hi, hsequence, hsubscription⟩

/-- The kind as it is given chooses the class, and is read as the kind that is stored. -/
theorem exists_kind_of_readObject (h : readObject r es = .ok o) :
    ∃ kind, es.get? "kind" = some kind ∧ o.IsFor r kind ∧ Decoder.text kind = .accepted o.kind := by
  unfold readObject at h
  cases hkind : kind? es with
  | none => simp [hkind] at h
  | some kind =>
    simp only [hkind] at h
    cases hdecode : decoderOf r kind (.map es) with
    | rejected issues => simp [hdecode, Decoded.toExcept] at h
    | accepted o' =>
      obtain rfl : o' = o := by simpa [hdecode, Decoded.toExcept] using h
      obtain ⟨hidentity, hfor⟩ := identity_of_decoderOf hdecode
      have hget := get?_of_kind? hkind
      exact ⟨kind, hget, hfor, text_of_ofEntries hidentity hget⟩

/-! ## The kind that is stored -/

theorem isFor_channel_iff {c : Channel} {kind : Text} :
    (Object.channel c).IsFor r (.str kind) ↔ ¬ IsReserved r kind := by
  simp [Object.IsFor, IsReserved, not_or]

/-- Bytes choose a channel. -/
theorem exists_channel_of_bytes {bs : List UInt8} (h : o.IsFor r (.bytes bs)) : ∃ c, o = .channel c := by
  cases o with
  | sequence s => exact absurd h (by simp [Object.IsFor])
  | subscription s => exact absurd h.2 (by simp)
  | channel c => exact ⟨c, rfl⟩

theorem isFor_kind_iff (h : readObject r es = .ok o) : o.IsFor r (.str o.kind) ↔ ¬ NamesInBytes r es := by
  obtain ⟨kind, hget, hfor, htext⟩ := exists_kind_of_readObject h
  obtain rfl | ⟨name, rfl, hname⟩ := text_eq_accepted_iff.1 htext
  · have hno : ¬ NamesInBytes r es := by
      rintro ⟨name, hbytes, -⟩
      simp [hget] at hbytes
    exact iff_of_true hfor hno
  · obtain ⟨c, rfl⟩ := exists_channel_of_bytes hfor
    rw [isFor_channel_iff, hname, not_iff_not]
    refine ⟨fun hreserved => ⟨name, hget, hreserved⟩, ?_⟩
    rintro ⟨name', hget', hreserved⟩
    have hbytes := Value.bytes.inj (Option.some.inj (hget.symm.trans hget'))
    obtain rfl : name = name' := Except.ok.inj
      ((Text.decodeUtf8_eq_ok_iff.2 rfl).symm.trans (Text.decodeUtf8_eq_ok_iff.2 hbytes))
    exact hreserved

/-- A channel of a reserved kind is what bytes make of it. -/
theorem namesInBytes_iff (h : readObject r es = .ok o) :
    NamesInBytes r es ↔ ∃ c, o.channel? = some c ∧ IsReserved r c.identity.kind := by
  rw [← not_iff_not, ← isFor_kind_iff h]
  obtain ⟨kind, -, hfor, htext⟩ := exists_kind_of_readObject h
  cases o with
  | channel c =>
    rw [isFor_channel_iff, not_iff_not]
    refine ⟨fun hreserved => ⟨c, rfl, hreserved⟩, ?_⟩
    rintro ⟨c', hc, hreserved⟩
    obtain rfl := Option.some.inj hc
    exact hreserved
  | sequence s | subscription s =>
    obtain rfl | ⟨name, rfl, -⟩ := text_eq_accepted_iff.1 htext
    · simpa [Object.channel?] using hfor
    · obtain ⟨c, hc⟩ := exists_channel_of_bytes hfor
      simp at hc

theorem isFor_kind_of_not_channel (h : readObject r es = .ok o) (hno : o.channel? = none) :
    o.IsFor r (.str o.kind) := by
  rw [isFor_kind_iff h, namesInBytes_iff h, hno]
  rintro ⟨c, hc, -⟩
  simp at hc

/-! ## Bundles -/

section
variable {docs : List Entries} {os : List Object} (hos : List.Forall₂ (fun d o => readObject r d = .ok o) docs os)
include hos

/-- What is true of one of the documents is true of one of the objects. -/
theorem exists_mem_iff_of_forall₂ {P : Entries → Prop} {Q : Object → Prop}
    (hiff : ∀ d o, readObject r d = .ok o → (P d ↔ Q o)) : (∃ o ∈ os, Q o) ↔ ∃ d ∈ docs, P d := by
  induction hos with
  | nil => simp
  | cons hd _ ih => rw [List.exists_mem_cons_iff, List.exists_mem_cons_iff, ih, hiff _ _ hd]

theorem exists_readObject_of_mem (ho : o ∈ os) : ∃ d, readObject r d = .ok o := by
  have hiff := exists_mem_iff_of_forall₂ hos (P := fun d => readObject r d = .ok o) (Q := (· = o))
    fun d o' hd => by rw [hd, Except.ok.injEq]
  obtain ⟨d, -, hd⟩ := hiff.1 ⟨o, ho, rfl⟩
  exact ⟨d, hd⟩

theorem kind_of_mem_sequences {q : Sequence} (h : q ∈ os.filterMap Object.sequence?) : q.identity.kind = r.kind := by
  obtain ⟨o, ho, hq⟩ := List.mem_filterMap.1 h
  obtain ⟨d, hd⟩ := exists_readObject_of_mem hos ho
  cases o with
  | sequence q' =>
    obtain rfl := Option.some.inj hq
    exact Value.str.inj (isFor_kind_of_not_channel hd rfl)
  | subscription q' | channel c => simp [Object.sequence?] at hq

theorem kind_of_mem_subscriptions {q : Subscription} (h : q ∈ os.filterMap Object.subscription?) :
    q.identity.kind = r.subscriptionKind := by
  obtain ⟨o, ho, hq⟩ := List.mem_filterMap.1 h
  obtain ⟨d, hd⟩ := exists_readObject_of_mem hos ho
  cases o with
  | subscription q' =>
    obtain rfl := Option.some.inj hq
    exact Value.str.inj (isFor_kind_of_not_channel hd rfl).2
  | sequence q' | channel c => simp [Object.subscription?] at hq

theorem exists_reserved_channel_iff :
    (∃ c ∈ os.filterMap Object.channel?, IsReserved r c.identity.kind) ↔ ∃ d ∈ docs, NamesInBytes r d := by
  rw [← exists_mem_iff_of_forall₂ hos fun d o hd => namesInBytes_iff hd]
  constructor
  · rintro ⟨c, hc, hreserved⟩
    obtain ⟨o, ho, hoc⟩ := List.mem_filterMap.1 hc
    exact ⟨o, ho, c, hoc, hreserved⟩
  · rintro ⟨o, ho, c, hoc, hreserved⟩
    exact ⟨c, List.mem_filterMap.2 ⟨o, ho, hoc⟩, hreserved⟩

end

/-- **The class of an object is the one of the kind that is stored in it**, unless the document gives its kind as the
bytes that encode a reserved one. So in a bundle a sequence has the kind of sequences and a subscription that of
subscriptions, and a channel of one of these kinds is there if and only if a document gives it so. -/
theorem chosen_iff_of_read (s : Settings) :
    let r := s.current.resource
    (∀ es source i o, (parse s es source i).1 = .ok o → (o.IsFor r (.str o.kind) ↔ ¬ NamesInBytes r es)) ∧
    ∀ text source b, loadText r text source = .ok b → ∃ docs, loadDocuments text source = .ok docs ∧
      (∀ q ∈ b.sequences, q.identity.kind = r.kind) ∧ (∀ q ∈ b.subscriptions, q.identity.kind = r.subscriptionKind) ∧
      ((∃ c ∈ b.channels, IsReserved r c.identity.kind) ↔ ∃ d ∈ docs, NamesInBytes r d) := by
  intro r
  refine ⟨fun es source i o h => ?_, fun text source b hload => ?_⟩
  · rw [parse_fst] at h
    exact isFor_kind_iff (parseObject_eq_ok_iff.1 h)
  · cases hdocs : loadDocuments text source with
    | error f => simp [loadText_of_error hdocs] at hload
    | ok docs =>
      obtain ⟨os, hos, rfl⟩ := (loadText_eq_ok_iff hdocs).1 hload
      rw [Bundle.ofList_eq]
      exact ⟨docs, rfl, fun q => kind_of_mem_sequences hos, fun q => kind_of_mem_subscriptions hos,
        exists_reserved_channel_iff hos⟩

/-- The kind `Sequence`, once as a text and once as the bytes of it. -/
def twiceSequence : Text := "kind: Sequence\n---\nkind: !!binary U2VxdWVuY2U=\n"

theorem chosen_of_text_and_bytes :
    let q : Sequence := { identity := { kind := "Sequence" } }
    let c : Channel := { identity := { kind := "Sequence" } }
    loadText {} twiceSequence unnamedSource = .ok ⟨[q], [c], []⟩ ∧ q.identity.kind = ({} : ResourceDefaults).kind ∧
      ∃ docs, loadDocuments twiceSequence unnamedSource = .ok docs ∧ ∃ d ∈ docs, NamesInBytes {} d := by
  intro q c
  have hload : loadText {} twiceSequence unnamedSource = .ok ⟨[q], [c], []⟩ := by decide +kernel
  obtain ⟨docs, hdocs, hsequences, -, hchannels⟩ := (chosen_iff_of_read {}).2 _ _ _ hload
  exact ⟨hload, hsequences q (by simp), docs, hdocs, hchannels.1 ⟨c, by simp, Or.inl rfl⟩⟩

/-- A channel whose kind is that of the sequences. -/
theorem channel_named_in_bytes :
    let c : Channel := { identity := { kind := "Sequence" } }
    loadText {} "kind: !!binary U2VxdWVuY2U=\n" unnamedSource = .ok ⟨[], [c], []⟩ ∧
      c.identity.kind = ({} : ResourceDefaults).kind :=
  ⟨by decide +kernel, rfl⟩

end Readiness.Manifest
