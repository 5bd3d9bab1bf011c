import Readiness.Schema.Tree

/-!
# Identity of resources

What every manifest carries besides its spec and status: the group, version and kind of its type, its metadata,
and references from one object to another.
-/
namespace Readiness

open Schema

/-- `GroupVersionKind`: the type of a resource. Types of the core group have no group. -/
structure GroupVersionKind where
  group : Text := ""
  version : Text
  kind : Text
deriving DecidableEq, Repr

namespace GroupVersionKind

def groupField : FieldName := ⟨"group", "group"⟩
def versionField : FieldName := ⟨"version", "version"⟩
def kindField : FieldName := ⟨"kind", "kind"⟩

/-- `api_version`: the version as manifests show it, after the group if there is one. -/
def apiVersion (g : GroupVersionKind) : Text :=
  if g.group = "" then g.version else g.group ++ "/" ++ g.version

def text (g : GroupVersionKind) : Text := g.apiVersion ++ ", Kind=" ++ g.kind

def decode : Decoder GroupVersionKind := record "GroupVersionKind" fun es =>
  GroupVersionKind.mk <$> groupField.decode es Decoder.text ""
    <*> versionField.require es Decoder.text
    <*> kindField.require es Decoder.text

def tree (g : GroupVersionKind) : Tree := .record [
  (groupField, .ofText g.group),
  (versionField, .ofText g.version),
  (kindField, .ofText g.kind)]

end GroupVersionKind

/-- `ObjectMeta`: the object metadata that is read or carried along. -/
structure Metadata where
  name : Decoder.BoundedText 0 253 := ⟨"", by decide⟩
  space : Decoder.BoundedText 0 63 := ⟨"", by decide⟩
  uid : Option Text := none
  generation : Nat := 0
  resourceVersion : Option Text := none
  labels : List (Text × Text) := []
  annotations : List (Text × Text) := []
deriving DecidableEq

namespace Metadata

def nameField : FieldName := ⟨"name", "name"⟩
def spaceField : FieldName := ⟨"namespace", "namespace"⟩
def uidField : FieldName := ⟨"uid", "uid"⟩
def generationField : FieldName := ⟨"generation", "generation"⟩
def resourceVersionField : FieldName := ⟨"resource_version", "resourceVersion"⟩
def labelsField : FieldName := ⟨"labels", "labels"⟩
def annotationsField : FieldName := ⟨"annotations", "annotations"⟩

def decode : Decoder Metadata := record "ObjectMeta" fun es =>
  Metadata.mk <$> nameField.decode es (Decoder.boundedText 0 253) ⟨"", by decide⟩
    <*> spaceField.decode es (Decoder.boundedText 0 63) ⟨"", by decide⟩
    <*> uidField.decode es (Decoder.optional Decoder.text) none
    <*> generationField.decode es Decoder.natural 0
    <*> resourceVersionField.decode es (Decoder.optional Decoder.text) none
    <*> labelsField.decode es (Decoder.mappingOf Decoder.text) []
    <*> annotationsField.decode es (Decoder.mappingOf Decoder.text) []

def tree (m : Metadata) : Tree := .record [
  (nameField, .ofText m.name.val),
  (spaceField, .ofText m.space.val),
  (uidField, .ofOption .ofText m.uid),
  (generationField, .ofNat m.generation),
  (resourceVersionField, .ofOption .ofText m.resourceVersion),
  (labelsField, .ofTexts m.labels),
  (annotationsField, .ofTexts m.annotations)]

end Metadata

/-- `ObjectReference`: points at another object without knowing more of its type than its name. -/
structure Reference where
  apiVersion : Text := ""
  kind : Text := ""
  name : Text := ""
  space : Text := ""
deriving DecidableEq, Repr

def apiVersionField : FieldName := ⟨"api_version", "apiVersion"⟩
def kindField : FieldName := ⟨"kind", "kind"⟩

namespace Reference

def decode : Decoder Reference := record "ObjectReference" fun es =>
  Reference.mk <$> apiVersionField.decode es Decoder.text ""
    <*> kindField.decode es Decoder.text ""
    <*> Metadata.nameField.decode es Decoder.text ""
    <*> Metadata.spaceField.decode es Decoder.text ""

def tree (r : Reference) : Tree := .record [
  (apiVersionField, .ofText r.apiVersion),
  (kindField, .ofText r.kind),
  (Metadata.nameField, .ofText r.name),
  (Metadata.spaceField, .ofText r.space)]

end Reference

/-- `ResourceData`: what all resources have. -/
structure Identity where
  apiVersion : Text := ""
  kind : Text := ""
  metadata : Metadata := {}
deriving DecidableEq

namespace Identity

def metadataField : FieldName := ⟨"metadata", "metadata"⟩

def name (i : Identity) : String := i.metadata.name.val

def space (i : Identity) : String := i.metadata.space.val

/-- `to_reference`: how others point at a resource. -/
def reference (i : Identity) : Reference := ⟨i.apiVersion, i.kind, i.name, i.space⟩

theorem reference_eq_iff {i : Identity} {r : Reference} : i.reference = r ↔
    r.apiVersion = i.apiVersion ∧ r.kind = i.kind ∧ r.name = i.metadata.name.val ∧ r.space = i.metadata.space.val := by
  constructor
  · rintro rfl
    exact ⟨rfl, rfl, rfl, rfl⟩
  · obtain ⟨_, _, _, _⟩ := r
    rintro ⟨rfl, rfl, rfl, rfl⟩
    rfl

def ofEntries (es : Entries) : Decoded Identity :=
  Identity.mk <$> apiVersionField.decode es Decoder.text ""
    <*> kindField.decode es Decoder.text ""
    <*> metadataField.decode es Metadata.decode {}

def decode : Decoder Identity := record "ResourceData" ofEntries

def fields (i : Identity) : List (FieldName × Tree) := [
  (apiVersionField, .ofText i.apiVersion),
  (kindField, .ofText i.kind),
  (metadataField, i.metadata.tree)]

def tree (i : Identity) : Tree := .record i.fields

end Identity

end Readiness
