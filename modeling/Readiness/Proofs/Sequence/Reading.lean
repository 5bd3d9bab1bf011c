import Readiness.Proofs.Resource.Reading
import Readiness.Sequence.Basic

/-!
# Sequences are read back

A sequence that has been written as a manifest is decoded again. Its identity and its status come back as they can be
written (`legible`); its spec, which may hold untyped entries, comes back as one that is written in the same way.
-/
namespace Readiness

open Schema

/-! ## Specs -/

namespace Destination

theorem ofEntries_of_written {d : Destination} {fs : List (FieldName × Tree)} {es : Entries} (h : Written fs es)
    (hfields : d.fields ⊆ fs) : ofEntries es = .accepted d := by
  unfold ofEntries
  rw [decode_of_mem h (hfields (by simp [fields])) (readsField_ofOption (fun _ => rfl) Reference.reads d.ref),
    decode_of_mem h (hfields (by simp [fields])) (readsField_optionalText d.uri),
    decode_of_mem h (hfields (by simp [fields])) (readsField_optionalText d.caCerts),
    decode_of_mem h (hfields (by simp [fields])) (readsField_optionalText d.audience)]
  rfl

theorem reads (d : Destination) : Reads Destination.decode d.tree d :=
  reads_record (show Separate [refField, uriField, Address.caCertsField, Address.audienceField] by decide)
    fun _ h => ofEntries_of_written h (List.Subset.refl _)

end Destination

theorem Delivery.reads (d : Delivery) : Reads Delivery.decode d.tree d := by
  have hwhole : ∀ n : Int, Reads Decoder.whole (.leaf (.int n)) n := by
    intro n v hv
    obtain rfl := Except.ok.inj hv
    rfl
  refine reads_record (show Separate [deadLetterSinkField, retryField, backoffPolicyField, backoffDelayField] by decide)
    fun es h => ?_
  rw [decode_of_mem h (by simp) (readsField_ofOption (fun _ => rfl) Destination.reads d.deadLetterSink),
    decode_of_mem h (by simp) (readsField_ofOption (fun _ => rfl) hwhole d.retry),
    decode_of_mem h (by simp) (readsField_optionalText d.backoffPolicy),
    decode_of_mem h (by simp) (readsField_optionalText d.backoffDelay)]
  rfl

theorem Stage.reads (s : Stage) : Reads Stage.decode s.tree s := by
  refine reads_record (show Separate [Destination.refField, Destination.uriField, Address.caCertsField,
    Address.audienceField, deliveryField] by decide) fun es h => ?_
  rw [Destination.ofEntries_of_written h (List.subset_append_left s.destination.fields _),
    decode_of_mem h (by simp) (readsField_ofOption (fun _ => rfl) Delivery.reads s.delivery)]
  rfl

/-- The spec of the channels is carried along unread. -/
theorem ChannelTemplate.restores (t : ChannelTemplate) : Restores ChannelTemplate.decode ChannelTemplate.tree t := by
  intro v hv
  have hsep : Separate (List.map Prod.fst [(apiVersionField, Tree.ofText t.apiVersion), (kindField, .ofText t.kind),
      (specField, .untyped t.spec)]) := show Separate [apiVersionField, kindField, specField] by decide
  obtain ⟨es, hes, rfl⟩ := exists_written hv hsep
  obtain ⟨w, hw, _⟩ := given?_of_mem hes (f := specField) (t := .untyped t.spec) (by simp)
  obtain ⟨spec, hread, hspec⟩ := restores_untyped t.spec w hw
  have hopen : Reads decodeOpen (.untyped t.spec) spec := hread
  refine ⟨{ t with spec := spec }, reads_record hsep fun es h => ?_, ?_⟩
  · rw [decode_of_mem h (by simp) (readsField_text "" t.apiVersion),
      decode_of_mem h (by simp) (readsField_text "" t.kind), decode_of_mem h (by simp) (hopen.field rfl)]
    rfl
  · rw [← hv]
    simp only [tree, Tree.render, Tree.renderFields] at hw hspec ⊢
    rw [hw, hspec]
    rfl

theorem SequenceSpec.restores (s : SequenceSpec) : Restores SequenceSpec.decode SequenceSpec.tree s := by
  intro v hv
  have hsep : Separate (List.map Prod.fst [(stagesField, Tree.list (s.stages.map Stage.tree)),
      (channelTemplateField, .ofOption ChannelTemplate.tree s.channelTemplate),
      (replyField, .ofOption Destination.tree s.reply)]) :=
    show Separate [stagesField, channelTemplateField, replyField] by decide
  obtain ⟨es, hes, rfl⟩ := exists_written hv hsep
  obtain ⟨w, hw, _⟩ := given?_of_mem hes (f := channelTemplateField)
    (t := .ofOption ChannelTemplate.tree s.channelTemplate) (by simp)
  obtain ⟨template, hread, hnull, htemplate⟩ :=
    restores_ofOption (fun _ => rfl) ChannelTemplate.restores s.channelTemplate hw
  refine ⟨{ s with channelTemplate := template }, reads_record hsep fun es h => ?_, ?_⟩
  · have hstages : ReadsField (Decoder.listOf Stage.decode) [] (.list (s.stages.map Stage.tree)) s.stages :=
      (reads_list fun stage _ => stage.reads).field rfl
    rw [decode_of_mem h (by simp) hstages, decode_of_mem h (by simp) hread,
      decode_of_mem h (by simp) (readsField_ofOption (fun _ => rfl) Destination.reads s.reply)]
    rfl
  · rw [← hv]
    simp only [tree, Tree.render, Tree.renderFields] at hw htemplate ⊢
    rw [hw, htemplate, hnull]

/-! ## Status -/

theorem StageStatus.reads (k : ChildKind) (s : StageStatus) : Reads (StageStatus.decode k) (s.tree k) s := by
  have hsep : Separate [k.childField, readyField] := by cases k <;> decide
  refine reads_record (show Separate [k.childField, readyField] from hsep) fun es h => ?_
  rw [decode_of_mem h (by simp) (s.child.reads.field rfl), decode_of_mem h (by simp) (s.ready.reads.field rfl)]
  rfl

theorem readsField_stages (k : ChildKind) (entries : List StageStatus) :
    ReadsField (Decoder.listOf (StageStatus.decode k)) [] (.list (entries.map (StageStatus.tree k))) entries :=
  (reads_list fun s _ => s.reads k).field rfl

namespace SequenceStatus

/-- As manifests show it. -/
def legible (s : SequenceStatus) : SequenceStatus := { s with health := s.health.legible }

theorem reads (s : SequenceStatus) : Reads SequenceStatus.decode s.tree s.legible := by
  refine reads_record (show Separate [Health.observedGenerationField, Health.conditionsField, Health.annotationsField,
    channelsField, subscriptionsField, ChannelStatus.addressField, authField] by decide) fun es h => ?_
  rw [Health.ofEntries_of_written h (List.subset_append_left s.health.fields _),
    decode_of_mem h (by simp) (readsField_stages .channel s.channels),
    decode_of_mem h (by simp) (readsField_stages .subscription s.subscriptions),
    decode_of_mem h (by simp) (s.address.reads.field rfl),
    decode_of_mem h (by simp) (readsField_ofOption (fun _ => rfl) Auth.reads s.auth)]
  rfl

theorem render_legible (form : Form) (s : SequenceStatus) : s.legible.tree.render form = s.tree.render form := by
  simp only [tree, legible, Health.legible, Health.fields, List.cons_append, List.nil_append, Tree.render,
    Tree.renderFields, render_ofTexts, legible_legible]
  rfl

end SequenceStatus

/-! ## The whole -/

namespace Sequence

/-- **A manifest is read as the sequence that it was written from**, with the names of labels and annotations as they
are written and a spec that is written as the spec was; and it is what is written of this sequence too. -/
theorem exists_decode_of_render {s : Sequence} {m : Value} (hm : s.tree.render .manifest = .ok m) :
    ∃ s', Sequence.decode m = .accepted s' ∧ s'.identity = s.identity.legible ∧ s'.status = s.status.legible ∧
      s'.tree.render .manifest = .ok m := by
  have hsep : Separate (List.map Prod.fst (s.identity.fields ++
      [(specField, s.spec.tree), (statusField, s.status.tree)])) :=
    show Separate [apiVersionField, kindField, Identity.metadataField, specField, statusField] by decide
  obtain ⟨es, h, rfl⟩ := exists_written hm hsep
  obtain ⟨w, hw, _⟩ := given?_of_mem h (f := specField) (t := s.spec.tree) (by simp)
  obtain ⟨spec, hread, hspec⟩ := s.spec.restores w hw
  have hstatus : Reads (orEmpty SequenceStatus.decode) s.status.tree s.status.legible := by
    intro v hv
    rw [orEmpty_of_ne_null (render_ne_null rfl hv), s.status.reads v hv]
  refine ⟨⟨s.identity.legible, spec, s.status.legible⟩, ?_, rfl, rfl, ?_⟩
  · show (Sequence.mk <$> Identity.ofEntries es <*> specField.decode es SequenceSpec.decode {} <*>
      statusField.decode es (orEmpty SequenceStatus.decode) {}) = _
    rw [Identity.ofEntries_of_written h (List.subset_append_left s.identity.fields _),
      decode_of_mem h (by simp) (hread.field rfl), decode_of_mem h (by simp) (hstatus.field rfl)]
    rfl
  · rw [← hm]
    simp only [tree, Identity.fields, Identity.legible, List.cons_append, List.nil_append] at *
    simp only [Tree.render, Tree.renderFields, Metadata.render_legible, SequenceStatus.render_legible, hw, hspec]
    rfl

end Sequence

end Readiness
