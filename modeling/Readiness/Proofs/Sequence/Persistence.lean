import Readiness.Proofs.Sequence.Reading
import Readiness.Proofs.Sequence.Runs

/-!
# Persisting a sequence

A sequence that was accepted and worked on can be written as a manifest, read back and worked on further as if it had
never been away (`reload_of_manifest`). What can differ are names of labels and annotations with halves of characters,
which have no written form; no operation looks at them, and no report shows them.
-/
namespace Readiness

open Calendar Schema

/-! ## Names in accepted documents -/

namespace Sequence

/-- No label or annotation is there twice. -/
def NamesDistinct (s : Sequence) : Prop :=
  (names s.identity.metadata.labels).Nodup ∧ (names s.identity.metadata.annotations).Nodup ∧
    (names s.status.health.annotations).Nodup

/-- All names of labels and annotations are made of characters. -/
def NamesWhole (s : Sequence) : Prop :=
  AllWhole s.identity.metadata.labels ∧ AllWhole s.identity.metadata.annotations ∧ AllWhole s.status.health.annotations

end Sequence

theorem Metadata.nodup_of_decode {v : Value} {m : Metadata} (h : Metadata.decode v = .accepted m) :
    (names m.labels).Nodup ∧ (names m.annotations).Nodup := by
  obtain ⟨es, h⟩ := record_eq_accepted h
  simp only [seq_eq_accepted_iff, map_eq_accepted_iff] at h
  obtain ⟨_, annotations, ⟨_, labels, ⟨_, _, ⟨_, _, ⟨_, _, ⟨_, _, ⟨_, _, rfl⟩, _, rfl⟩, _, rfl⟩, _, rfl⟩, _, rfl⟩,
    hlabels, rfl⟩, hannotations, rfl⟩ := h
  exact ⟨nodup_of_field hlabels, nodup_of_field hannotations⟩

theorem Identity.nodup_of_ofEntries {es : Entries} {i : Identity} (h : Identity.ofEntries es = .accepted i) :
    (names i.metadata.labels).Nodup ∧ (names i.metadata.annotations).Nodup := by
  simp only [Identity.ofEntries, seq_eq_accepted_iff, map_eq_accepted_iff] at h
  obtain ⟨_, m, ⟨_, _, ⟨_, _, rfl⟩, _, rfl⟩, hm, rfl⟩ := h
  obtain rfl | ⟨v, hv⟩ := FieldName.decode_eq_accepted hm
  · exact ⟨List.nodup_nil, List.nodup_nil⟩
  · exact Metadata.nodup_of_decode hv

theorem Health.nodup_of_ofEntries {es : Entries} {s : Health} (h : Health.ofEntries es = .accepted s) :
    (names s.annotations).Nodup := by
  simp only [Health.ofEntries, seq_eq_accepted_iff, map_eq_accepted_iff] at h
  obtain ⟨_, annotations, ⟨_, _, ⟨_, _, rfl⟩, _, rfl⟩, hannotations, rfl⟩ := h
  exact nodup_of_field hannotations

theorem SequenceStatus.nodup_of_decode {v : Value} {s : SequenceStatus} (h : SequenceStatus.decode v = .accepted s) :
    (names s.health.annotations).Nodup := by
  obtain ⟨es, h⟩ := record_eq_accepted h
  simp only [seq_eq_accepted_iff, map_eq_accepted_iff] at h
  obtain ⟨_, _, ⟨_, _, ⟨_, _, ⟨_, _, ⟨_, hhealth, rfl⟩, _, rfl⟩, _, rfl⟩, _, rfl⟩, _, rfl⟩ := h
  exact Health.nodup_of_ofEntries hhealth

theorem Sequence.namesDistinct_of_decode {v : Value} {s : Sequence} (h : Sequence.decode v = .accepted s) :
    s.NamesDistinct := by
  obtain ⟨es, h⟩ := record_eq_accepted h
  simp only [seq_eq_accepted_iff, map_eq_accepted_iff] at h
  obtain ⟨_, status, ⟨_, _, ⟨identity, hidentity, rfl⟩, _, rfl⟩, hstatus, rfl⟩ := h
  obtain ⟨hlabels, hannotations⟩ := Identity.nodup_of_ofEntries hidentity
  refine ⟨hlabels, hannotations, ?_⟩
  obtain rfl | ⟨v, hv⟩ := FieldName.decode_eq_accepted hstatus
  · exact List.nodup_nil
  · cases v with
    | _ => exact SequenceStatus.nodup_of_decode hv

/-! ## Operations and names -/

namespace SequenceStatus

def withAnnotations (as : List (Text × Text)) (s : SequenceStatus) : SequenceStatus :=
  { s with health := { s.health with annotations := as } }

theorem legible_eq (s : SequenceStatus) : s.legible = s.withAnnotations (Readiness.legible s.health.annotations) := rfl

section
variable (now : DateTime) (as : List (Text × Text)) (s : SequenceStatus)

theorem setAddress_withAnnotations (a : Option Address) :
    (s.withAnnotations as).setAddress now a = (s.setAddress now a).withAnnotations as := by
  unfold setAddress
  cases a.bind Address.target? <;> rfl

theorem markChildren_withAnnotations (k : ChildKind) (entries : List StageStatus) :
    (s.withAnnotations as).markChildren now k entries = (s.markChildren now k entries).withAnnotations as := by
  unfold markChildren
  split <;> rfl

theorem propagateChannels_withAnnotations (cs : List Channel) :
    (s.withAnnotations as).propagateChannels now cs = (s.propagateChannels now cs).withAnnotations as := by
  cases cs with
  | nil => exact markChildren_withAnnotations now as { s with channels := [] } .channel []
  | cons c cs =>
    let entries := observeAll now .channel s.channels ((c :: cs).map Channel.seen)
    have hmark := markChildren_withAnnotations now as { s.setAddress now c.status.address with channels := entries }
      .channel entries
    unfold propagateChannels
    dsimp only
    rw [setAddress_withAnnotations]
    exact hmark

theorem propagateSubscriptions_withAnnotations (ss : List Subscription) :
    (s.withAnnotations as).propagateSubscriptions now ss = (s.propagateSubscriptions now ss).withAnnotations as :=
  let entries := observeAll now .subscription s.subscriptions (ss.map Subscription.seen)
  markChildren_withAnnotations now as { s with subscriptions := entries } .subscription entries

theorem pass_withAnnotations (host : Work) (channels : Option (List Channel))
    (subscriptions : Option (List Subscription)) :
    (s.withAnnotations as).pass host now channels subscriptions =
      (s.pass host now channels subscriptions).withAnnotations as := by
  have hseed : (s.withAnnotations as).seedMissing now = (s.seedMissing now).withAnnotations as := rfl
  rw [pass_eq, pass_eq, hseed, propagateChannels_withAnnotations, propagateSubscriptions_withAnnotations]
  rfl

end

theorem annotations_run (steps : List Step) (s : SequenceStatus) :
    (run steps s).health.annotations = s.health.annotations :=
  run_keeps (P := fun t => t.health.annotations = s.health.annotations)
    (fun now op t h => (annotations_apply now t op).trans h) steps rfl

end SequenceStatus

/-! ## Passes after reloading -/

/-- Sequences that differ in nothing but what manifests cannot show of labels and annotations, and in the spec. -/
structure Sequence.Reloaded (before after : Sequence) : Prop where
  identity : after.identity = before.identity.legible
  status : after.status = before.status.legible

theorem Report.ofSequence_of_reloaded {before after : Sequence} (h : before.Reloaded after) (previous : Option Status)
    (channelCount subscriptionCount : Nat) : Report.ofSequence after previous channelCount subscriptionCount =
      Report.ofSequence before previous channelCount subscriptionCount := by
  unfold Report.ofSequence
  rw [h.identity, h.status]
  rfl

theorem Work.reconcile_of_reloaded {before after : Work} (h : before.sequence.Reloaded after.sequence) (now : DateTime)
    (cs : List Channel) (ss : List Subscription) :
    (after.reconcile now cs ss).1 = (before.reconcile now cs ss).1 ∧
      (before.reconcile now cs ss).2.sequence.Reloaded (after.reconcile now cs ss).2.sequence := by
  have hgeneration : after.sequence.identity.metadata.generation = before.sequence.identity.metadata.generation := by
    rw [h.identity]
    rfl
  have hkept := SequenceStatus.annotations_apply now before.sequence.status (.pass before (some cs) (some ss))
  have hpass : after.sequence.status.pass after now (some cs) (some ss) =
      (before.sequence.status.pass before now (some cs) (some ss)).legible :=
    calc after.sequence.status.pass after now (some cs) (some ss)
      _ = before.sequence.status.legible.pass before now (some cs) (some ss) := by
        rw [h.status, SequenceStatus.pass_eq, SequenceStatus.pass_eq, hgeneration]
      _ = (before.sequence.status.pass before now (some cs) (some ss)).withAnnotations
          (legible before.sequence.status.health.annotations) := by
        rw [SequenceStatus.legible_eq, SequenceStatus.pass_withAnnotations]
      _ = (before.sequence.status.pass before now (some cs) (some ss)).legible := by
        rw [SequenceStatus.legible_eq, ← hkept]
        rfl
  have hafter : (before.reconcile now cs ss).2.sequence.Reloaded (after.reconcile now cs ss).2.sequence :=
    ⟨h.identity, hpass⟩
  have hprevious : after.sequence.status.conditions = before.sequence.status.conditions := by
    rw [h.status]
    rfl
  refine ⟨?_, hafter⟩
  show Report.ofSequence (after.reconcile now cs ss).2.sequence
    (after.sequence.status.conditions.statusOf? sequenceConditions.happy) cs.length ss.length = _
  rw [hprevious, Report.ofSequence_of_reloaded hafter]
  rfl

/-! ## The way to a manifest and back -/

namespace Sequence

/-- What comes back is the same where all names can be written. -/
theorem eq_of_reloaded_iff {before after : Sequence} (hd : before.NamesDistinct) (h : before.Reloaded after) :
    after.identity = before.identity ∧ after.status = before.status ↔ before.NamesWhole := by
  obtain ⟨hlabels, hannotations, hstatus⟩ := hd
  rw [h.identity, h.status, NamesWhole, ← legible_eq_self_iff hlabels, ← legible_eq_self_iff hannotations,
    ← legible_eq_self_iff hstatus]
  constructor
  · rintro ⟨hi, hs⟩
    have hm : before.identity.metadata.legible = before.identity.metadata := congrArg Identity.metadata hi
    exact ⟨congrArg Metadata.labels hm, congrArg Metadata.annotations hm,
      congrArg (fun s : SequenceStatus => s.health.annotations) hs⟩
  · rintro ⟨hl, ha, hs⟩
    exact ⟨by simp only [Identity.legible, Metadata.legible, hl, ha],
      by simp only [SequenceStatus.legible, Health.legible, hs]⟩

/-- **Persisting a sequence loses nothing that is worked with.** After any run on a sequence that was accepted, if it can
be written as a manifest, the manifest is accepted, and what it is read as has the same identity and the same status, down
to the names of labels and annotations as they can be written: all of it is equal exactly if no such name holds half of a
character. It is written as the same manifest again, and a later pass reports the same on both and leaves them alike. -/
theorem reload_of_manifest {v : Value} {s₀ : Sequence} (hv : Sequence.decode v = .accepted s₀)
    (steps : List SequenceStatus.Step) {m : Value}
    (hm : (s₀.mapStatus (SequenceStatus.run steps)).tree.render .manifest = .ok m) :
    let s := s₀.mapStatus (SequenceStatus.run steps)
    ∃ s', Sequence.decode m = .accepted s' ∧
      s'.identity = s.identity.legible ∧ s'.status = s.status.legible ∧
      (s'.identity = s.identity ∧ s'.status = s.status ↔ s.NamesWhole) ∧
      s'.tree.render .manifest = .ok m ∧
      ∀ now cs ss j j',
        (Work.reconcile now cs ss ⟨s', j'⟩).1 = (Work.reconcile now cs ss ⟨s, j⟩).1 ∧
        (Work.reconcile now cs ss ⟨s', j'⟩).2.sequence.status =
          (Work.reconcile now cs ss ⟨s, j⟩).2.sequence.status.legible := by
  intro s
  obtain ⟨s', hread, hidentity, hstatus, hwritten⟩ := exists_decode_of_render hm
  have hreloaded : s.Reloaded s' := ⟨hidentity, hstatus⟩
  have hd : s.NamesDistinct := by
    obtain ⟨hlabels, hannotations, hkept⟩ := namesDistinct_of_decode hv
    refine ⟨hlabels, hannotations, ?_⟩
    rw [← SequenceStatus.annotations_run steps] at hkept
    exact hkept
  refine ⟨s', hread, hidentity, hstatus, eq_of_reloaded_iff hd hreloaded, hwritten, fun now cs ss j j' => ?_⟩
  have hwork : (Work.mk s j).sequence.Reloaded (Work.mk s' j').sequence := hreloaded
  obtain ⟨hreport, hafter⟩ := Work.reconcile_of_reloaded hwork now cs ss
  exact ⟨hreport, hafter.status⟩

/-- A sequence with one label, whose identity was created. -/
theorem reload_of_labelled_sequence :
    let v : Value := .map [(.str "metadata", .map [(.str "labels", .map [(.str "app", .str "web")])])]
    let steps : List SequenceStatus.Step := [(⟨Date.epoch, .midnight, some .utc⟩, .identityCreated)]
    ∃ s₀ m s', Sequence.decode v = .accepted s₀ ∧
      (s₀.mapStatus (SequenceStatus.run steps)).tree.render .manifest = .ok m ∧ Sequence.decode m = .accepted s' ∧
      s'.identity = s₀.identity ∧ s'.status = SequenceStatus.run steps s₀.status := by
  intro v steps
  have hv : Sequence.decode v = .accepted { identity := { metadata := { labels := [("app", "web")] } } } := rfl
  obtain ⟨m, hm⟩ : ∃ m, (Sequence.mapStatus (SequenceStatus.run steps)
      { identity := { metadata := { labels := [("app", "web")] } } }).tree.render .manifest = .ok m := ⟨_, rfl⟩
  obtain ⟨s', hread, _, _, hsame, _⟩ := reload_of_manifest hv steps hm
  have hwhole : AllWhole [("app", "web")] := by
    intro p hp
    rw [List.mem_singleton.1 hp]
    exact Text.isWhole_ofString "app"
  obtain ⟨hidentity, hstatus⟩ := hsame.2 ⟨hwhole, by simp [AllWhole, mapStatus], by
    simp [AllWhole, mapStatus, SequenceStatus.annotations_run]⟩
  exact ⟨_, m, s', hv, hm, hread, hidentity, hstatus⟩

/-- Two labels whose names are halves of characters come back as one. -/
theorem reload_merges_labels :
    let halves : List (Text × Text) := [(⟨[0xD800]⟩, "x"), (⟨[0xD801]⟩, "y")]
    let v : Value := .map [(.str "metadata", .map [(.str "labels",
      .map [(.str ⟨[0xD800]⟩, .str "x"), (.str ⟨[0xD801]⟩, .str "y")])])]
    ∃ s m s', Sequence.decode v = .accepted s ∧ s.tree.render .manifest = .ok m ∧ Sequence.decode m = .accepted s' ∧
      s.identity.metadata.labels = halves ∧
      s'.identity.metadata.labels = [(("\uFFFD\uFFFD\uFFFD" : Text), ("y" : Text))] := by
  intro halves v
  have hv : Sequence.decode v = .accepted { identity := { metadata := { labels := halves } } } := rfl
  obtain ⟨m, hm⟩ : ∃ m, (Sequence.mk { metadata := { labels := halves } } {} {}).tree.render .manifest = .ok m :=
    ⟨_, rfl⟩
  obtain ⟨s', hread, hidentity, _⟩ := exists_decode_of_render hm
  refine ⟨_, m, s', hv, hm, hread, rfl, ?_⟩
  rw [hidentity]
  rfl

end Sequence

end Readiness
