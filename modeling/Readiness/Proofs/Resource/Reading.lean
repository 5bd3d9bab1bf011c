import Readiness.Proofs.Calendar.Iso
import Readiness.Proofs.Schema.Reading
import Readiness.Resource.Child

/-!
# Identity, health and addresses are read back

Model by model, what a manifest says of a part of a resource is read as that part. Names of labels and annotations come
back as they can be written, which is not always as they were; everything else does, conditions with their times
included.

Fields that several models have are read from whatever list of fields they are among.
-/
namespace Readiness

open Schema

namespace Schema

theorem readsField_text (default t : Text) : ReadsField Decoder.text default (.ofText t) t := (reads_ofText t).field rfl

theorem readsField_optionalText (o : Option Text) :
    ReadsField (Decoder.optional Decoder.text) none (.ofOption .ofText o) o :=
  readsField_ofOption (fun _ => rfl) reads_ofText o

theorem readsField_texts (ps : List (Text × Text)) :
    ReadsField (Decoder.mappingOf Decoder.text) [] (.ofTexts ps) (legible ps) := (reads_ofTexts ps).field rfl

end Schema

theorem orEmpty_of_ne_null {α : Type} {d : Decoder α} {v : Value} (h : v ≠ .null) : orEmpty d v = d v := by
  cases v with
  | null => exact absurd rfl h
  | _ => rfl

/-! ## References and addresses -/

theorem Reference.reads (r : Reference) : Reads Reference.decode r.tree r := by
  refine reads_record (show Separate [apiVersionField, kindField, Metadata.nameField, Metadata.spaceField] by decide)
    fun es h => ?_
  rw [decode_of_mem h (by simp) (readsField_text "" r.apiVersion),
    decode_of_mem h (by simp) (readsField_text "" r.kind), decode_of_mem h (by simp) (readsField_text "" r.name),
    decode_of_mem h (by simp) (readsField_text "" r.space)]
  rfl

theorem Address.reads (a : Address) : Reads Address.decode a.tree a := by
  refine reads_record (show Separate [nameField, urlField, caCertsField, audienceField] by decide) fun es h => ?_
  rw [decode_of_mem h (by simp) (readsField_optionalText a.name),
    decode_of_mem h (by simp) (readsField_optionalText a.url),
    decode_of_mem h (by simp) (readsField_optionalText a.caCerts),
    decode_of_mem h (by simp) (readsField_optionalText a.audience)]
  rfl

theorem Auth.reads (a : Auth) : Reads Auth.decode a.tree a := by
  refine reads_record (show Separate [accountField] by decide) fun es h => ?_
  rw [decode_of_mem h (by simp) (readsField_optionalText a.serviceAccountName)]
  rfl

/-! ## Identity -/

namespace Metadata

/-- As manifests show it. -/
def legible (m : Metadata) : Metadata :=
  { m with labels := Readiness.legible m.labels, annotations := Readiness.legible m.annotations }

theorem reads (m : Metadata) : Reads Metadata.decode m.tree m.legible := by
  refine reads_record (show Separate [nameField, spaceField, uidField, generationField, resourceVersionField,
    labelsField, annotationsField] by decide) fun es h => ?_
  rw [decode_of_mem h (by simp) ((reads_boundedText m.name).field rfl),
    decode_of_mem h (by simp) ((reads_boundedText m.space).field rfl),
    decode_of_mem h (by simp) (readsField_optionalText m.uid),
    decode_of_mem h (by simp) ((reads_ofNat m.generation).field rfl),
    decode_of_mem h (by simp) (readsField_optionalText m.resourceVersion),
    decode_of_mem h (by simp) (readsField_texts m.labels),
    decode_of_mem h (by simp) (readsField_texts m.annotations)]
  rfl

/-- Manifests do not tell the two apart. -/
theorem render_legible (form : Form) (m : Metadata) : m.legible.tree.render form = m.tree.render form := by
  simp only [tree, legible, Tree.render, Tree.renderFields, render_ofTexts, legible_legible]
  rfl

end Metadata

namespace Identity

def legible (i : Identity) : Identity := { i with metadata := i.metadata.legible }

theorem ofEntries_of_written {i : Identity} {fs : List (FieldName × Tree)} {es : Entries} (h : Written fs es)
    (hfields : i.fields ⊆ fs) : ofEntries es = .accepted i.legible := by
  unfold ofEntries
  rw [decode_of_mem h (hfields (by simp [fields])) (readsField_text "" i.apiVersion),
    decode_of_mem h (hfields (by simp [fields])) (readsField_text "" i.kind),
    decode_of_mem h (hfields (by simp [fields])) (i.metadata.reads.field rfl)]
  rfl

end Identity

/-! ## Conditions and health -/

namespace Condition

theorem reads_type (t : ConditionType) : Reads decodeType (.ofText t.val) t := reads_boundedText t

theorem reads_status (s : Status) : Reads decodeStatus (.ofText s.text) s := by
  intro v hv
  obtain rfl := Except.ok.inj hv
  cases s <;> rfl

theorem reads_severity (s : Severity) : Reads decodeSeverity (.ofText s.text) s := by
  intro v hv
  obtain rfl := Except.ok.inj hv
  cases s <;> rfl

/-- Times come back from their written form. -/
theorem reads_time (t : Calendar.DateTime) : Reads Decoder.time (.ofText (t.iso .wire)) t := by
  intro v hv
  obtain rfl := Except.ok.inj hv
  simp [Decoder.time, Decoder.Content.of, Decoder.timeOfText, Calendar.ofText_iso_wire]

theorem reads (c : Condition) : Reads Condition.decode c.tree c := by
  refine reads_record (show Separate [typeField, statusField, severityField, transitionField, reasonField, messageField]
    by decide) fun es h => ?_
  rw [require_of_mem h (by simp) rfl (reads_type c.type),
    decode_of_mem h (by simp) ((reads_status c.status).field rfl),
    decode_of_mem h (by simp) ((reads_severity c.severity).field rfl),
    decode_of_mem h (by simp) (readsField_ofOption (fun _ => rfl) reads_time c.transition),
    decode_of_mem h (by simp) (readsField_text "" c.reason), decode_of_mem h (by simp) (readsField_text "" c.message)]
  rfl

end Condition

theorem readsField_conditions (cs : Conditions) :
    ReadsField (Decoder.listOf Condition.decode) [] (.list (cs.map Condition.tree)) cs :=
  (reads_list fun c _ => c.reads).field rfl

namespace Health

def legible (h : Health) : Health := { h with annotations := Readiness.legible h.annotations }

theorem ofEntries_of_written {s : Health} {fs : List (FieldName × Tree)} {es : Entries} (h : Written fs es)
    (hfields : s.fields ⊆ fs) : ofEntries es = .accepted s.legible := by
  unfold ofEntries
  rw [decode_of_mem h (hfields (by simp [fields])) ((reads_ofNat s.observedGeneration).field rfl),
    decode_of_mem h (hfields (by simp [fields])) (readsField_conditions s.conditions),
    decode_of_mem h (hfields (by simp [fields])) (readsField_texts s.annotations)]
  rfl

end Health

end Readiness
