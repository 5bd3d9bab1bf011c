import Readiness.Proofs.Log.Blocks
import Readiness.Proofs.Sequence.Calls
import Readiness.Proofs.Sequence.History

/-!
# Whose records they are

Passes and failed fetches log from within a block that names their sequence and its namespace. These are named fields of
the context, and extra entries win over those, whichever block they come from. So an entry that a block around the call
set under one of the two names stands in every record of the call, in place of the sequence's own (`attribution_of_calls`
says when). The block itself is closed in any case. Where the context of the call cannot be copied, the first logger
raises, and the call with it (`raises_iff`).
-/
namespace Readiness

open Calendar Log Entries

namespace Log

/-- An entry of the data of a record. -/
def Record.field? (r : Record) (name : Text) : Option Value :=
  match r.extra with
  | .map es => Entries.get? es name
  | _ => none

/-- The field of a name in what a block made of the context around it: extra entries from around it come first. -/
theorem field?_record_of_passed (l : Logger) (level : Level) (message : Text) (passed : Entries) {outer : Context}
    {layer : Layer} {k : ContextKey} {t : Text} (h : layer.passed k = some (.str t)) :
    (l.record (outer.inside layer).entries level message passed).field? k.name =
      some (((ofList outer.extra).get? k.name).getD (.str t)) := by
  have hnamed : (outer.inside layer).named k = .str t := by simp [Context.inside, h]
  have hfield : (outer.inside layer).field? (.str k.name) = some (.str t) := by
    cases k <;> simp [Context.field?, ContextKey.all, ContextKey.name, hnamed]
  show Entries.get? (l.data (outer.inside layer).entries passed) k.name = _
  rw [get?_eq_at?, Logger.at?_data, hfield, get?_eq_at?]
  show ((ofList outer.extra).at? (.str k.name)).or _ = _
  cases (ofList outer.extra).at? (.str k.name) <;> rfl

/-- A record names a sequence and its namespace. -/
structure Record.Names (r : Record) (s : Sequence) : Prop where
  sequence : r.field? "sequence" = some (.str s.identity.name)
  space : r.field? "namespace" = some (.str s.identity.space)

/-- Extra entries of a context under the two names, where there are some, are those of a sequence. -/
structure Context.Agrees (c : Context) (s : Sequence) : Prop where
  sequence : ∀ v, (ofList c.extra).get? "sequence" = some v → v = .str s.identity.name
  space : ∀ v, (ofList c.extra).get? "namespace" = some v → v = .str s.identity.space

end Log

namespace Work

/-- What a call adds to the log. In a context that cannot be copied that is nothing, not even a checkpoint. -/
def Call.records (now : DateTime) (call : Call) (w : Work) : List Record :=
  match (call.context w).fields with
  | .error _ => []
  | .ok shown =>
    match call with
    | .reconcile channels subscriptions => passRecords now (channels.getD []) (subscriptions.getD []) w
    | .fetchFailure kind error =>
      match ChildKind.ofPlural? kind with
      | some k => [passLogger.record shown Level.warning ("Failed to list " ++ kind ++ ": " ++ error)
          (Fields.entries [("condition", .str k.aspect.type)])]
      | none => []

/-- A fetch failed of what is no kind of children. -/
def Call.IsRefused : Call → Prop
  | .reconcile _ _ => False
  | .fetchFailure kind _ => ChildKind.ofPlural? kind = none

/-- The call cannot come to its end: it is refused, or the context that it works in cannot be copied. -/
def Call.Raises (w : Work) (call : Call) : Prop := call.IsRefused ∨ ¬ (call.context w).IsCopyable

variable (now : DateTime) (call : Call) (w : Work)

/-- A call adds its records to the journal, and leaves the blocks as they are. -/
theorem journal_apply : (call.apply now w).journal =
    { w.journal with records := w.journal.records ++ call.records now w } := by
  cases hshown : (call.context w).fields with
  | error f =>
    have hnone : call.records now w = [] := by simp only [Call.records, hshown]
    rw [hnone, List.append_nil]
    cases call with
    | reconcile channels subscriptions => simp only [Call.apply, Call.perform, hshown]; rfl
    | fetchFailure kind error =>
      simp only [Call.apply, Call.perform, hshown, markFetchFailure, within]
      cases ChildKind.ofPlural? kind <;> rfl
  | ok shown =>
    cases call with
    | reconcile channels subscriptions =>
      have hpass : (w.reconcile now (channels.getD []) (subscriptions.getD [])).2.journal =
          { w.journal with
            records := w.journal.records ++ passRecords now (channels.getD []) (subscriptions.getD []) w } := by
        rw [← records_reconcile]
        rfl
      simp only [Call.apply, Call.perform, Call.records, hshown]
      exact hpass
    | fetchFailure kind error =>
      obtain ⟨-, rfl⟩ := Context.fields_eq_ok_iff.1 hshown
      simp only [Call.apply, Call.perform, Call.records, hshown, markFetchFailure, within]
      cases ChildKind.ofPlural? kind with
      | some k => rfl
      | none => simp only [List.append_nil]; rfl

theorem raises_iff : (∃ f, (call.perform now w).1 = .error f) ↔ call.Raises w := by
  unfold Call.Raises
  rw [← Context.exists_fields_eq_error_iff]
  cases hshown : (call.context w).fields with
  | error f =>
    refine iff_of_true ?_ (.inr ⟨f, rfl⟩)
    cases call with
    | reconcile channels subscriptions =>
      simp only [Call.perform, hshown]
      exact ⟨_, rfl⟩
    | fetchFailure kind error =>
      simp only [Call.perform, hshown, markFetchFailure, within]
      cases ChildKind.ofPlural? kind <;> exact ⟨_, rfl⟩
  | ok shown =>
    cases call with
    | reconcile channels subscriptions => simp [Call.perform, hshown, Call.IsRefused]
    | fetchFailure kind error =>
      simp only [Call.perform, hshown, markFetchFailure, within, Call.IsRefused]
      cases ChildKind.ofPlural? kind <;> simp

/-- Only a call that raises logs nothing by a logger. -/
theorem exists_record_iff : (∃ r ∈ call.records now w, r.logger ≠ Checkpoint.logger) ↔ ¬ call.Raises w := by
  have hpass : passLogger.name ≠ Checkpoint.logger := by decide
  unfold Call.Raises
  rw [← Context.exists_fields_eq_error_iff]
  cases hshown : (call.context w).fields with
  | error f => simp [Call.records, hshown]
  | ok shown =>
    cases call with
    | reconcile channels subscriptions =>
      simp only [Call.records, hshown, Call.IsRefused]
      refine iff_of_true ⟨_, List.mem_of_getLast? (List.getLast?_concat (l := [_, _, _])), hpass⟩ (by simp)
    | fetchFailure kind error =>
      cases hkind : ChildKind.ofPlural? kind with
      | some k => simp [Call.records, Call.IsRefused, hshown, hkind, Logger.record, hpass]
      | none => simp [Call.records, Call.IsRefused, hshown, hkind]

/-- The records of loggers are made in a block that passes the two names. -/
theorem exists_record_of_mem {r : Record} (hr : r ∈ call.records now w) (hlogger : r.logger ≠ Checkpoint.logger) :
    ∃ l layer level message passed,
      r = Logger.record l (w.journal.context.inside layer).entries level message passed ∧
      layer.passed .sequence = some (.str w.sequence.identity.name) ∧
      layer.passed .space = some (.str w.sequence.identity.space) := by
  cases hshown : (call.context w).fields with
  | error f => simp [Call.records, hshown] at hr
  | ok shown =>
    obtain ⟨-, rfl⟩ := Context.fields_eq_ok_iff.1 hshown
    cases call with
    | reconcile channels subscriptions =>
      simp only [Call.records, hshown, passRecords, List.mem_cons, List.not_mem_nil, or_false] at hr
      rcases hr with rfl | rfl | rfl | rfl
      · exact ⟨_, _, _, _, _, rfl, rfl, rfl⟩
      · exact ⟨_, _, _, _, _, rfl, rfl, rfl⟩
      · exact absurd rfl hlogger
      · exact ⟨_, _, _, _, _, rfl, rfl, rfl⟩
    | fetchFailure kind error =>
      cases hkind : ChildKind.ofPlural? kind with
      | some k =>
        simp only [Call.records, hshown, hkind, List.mem_singleton] at hr
        exact ⟨_, _, _, _, _, hr, rfl, rfl⟩
      | none => simp [Call.records, hshown, hkind] at hr

/-- **Records are attributed to their own sequence, unless a block around the call has extra entries under these
names.** After a pass and after a failed fetch, also one that raises, the contexts are those from before. A call raises if
it is refused, or if something in the blocks around it cannot be copied. In every record that a logger made in between,
the sequence and the namespace are what the extra entries around the call say, and only where they say nothing those of
the sequence itself. So the records are all attributed to the sequence exactly if the call raises, and then logs nothing,
or these entries, where there are some, happen to be the sequence's own. -/
theorem attribution_of_calls (now : DateTime) (call : Call) (w : Work) :
    let ambient := w.journal.context
    let after := call.apply now w
    after.journal.contexts = w.journal.contexts ∧
    after.journal.records = w.journal.records ++ call.records now w ∧
    ((∃ f, (call.perform now w).1 = .error f) ↔ call.Raises w) ∧
    (∀ r ∈ call.records now w, r.logger ≠ Checkpoint.logger →
      r.field? "sequence" = some (((ofList ambient.extra).get? "sequence").getD (.str w.sequence.identity.name)) ∧
      r.field? "namespace" = some (((ofList ambient.extra).get? "namespace").getD (.str w.sequence.identity.space))) ∧
    ((∀ r ∈ call.records now w, r.logger ≠ Checkpoint.logger → r.Names w.sequence) ↔
      call.Raises w ∨ ambient.Agrees w.sequence) := by
  intro ambient after
  have hfields : ∀ r ∈ call.records now w, r.logger ≠ Checkpoint.logger →
      r.field? "sequence" = some (((ofList ambient.extra).get? "sequence").getD (.str w.sequence.identity.name)) ∧
      r.field? "namespace" = some (((ofList ambient.extra).get? "namespace").getD (.str w.sequence.identity.space)) := by
    intro r hr hlogger
    obtain ⟨l, layer, level, message, passed, rfl, hname, hspace⟩ := exists_record_of_mem now call w hr hlogger
    exact ⟨field?_record_of_passed (k := .sequence) l level message passed hname,
      field?_record_of_passed (k := .space) l level message passed hspace⟩
  have hjournal := journal_apply now call w
  refine ⟨by rw [hjournal], by rw [hjournal], raises_iff now call w, hfields, ?_⟩
  constructor
  · intro hnames
    by_cases hraises : call.Raises w
    · exact .inl hraises
    · obtain ⟨r, hr, hlogger⟩ := (exists_record_iff now call w).2 hraises
      obtain ⟨hsequence, hspace⟩ := hfields r hr hlogger
      obtain ⟨hname, hown⟩ := hnames r hr hlogger
      refine .inr ⟨fun v hv => ?_, fun v hv => ?_⟩
      · simpa [hsequence, hv] using hname
      · simpa [hspace, hv] using hown
  · rintro (hraises | hagrees) r hr hlogger
    · exact absurd hraises ((exists_record_iff now call w).1 ⟨r, hr, hlogger⟩)
    · obtain ⟨hsequence, hspace⟩ := hfields r hr hlogger
      refine ⟨hsequence.trans ?_, hspace.trans ?_⟩
      · cases h : (ofList ambient.extra).get? "sequence" with
        | none => rfl
        | some v => rw [hagrees.sequence v h]; rfl
      · cases h : (ofList ambient.extra).get? "namespace" with
        | none => rfl
        | some v => rw [hagrees.space v h]; rfl

/-- A block around a pass has an extra entry that names another sequence, and so does the record of the outcome. -/
theorem attributed_to_other_sequence :
    let layer : Layer := { extra := some (.map [(.str "sequence", .str "billing")]) }
    let orders : Identity := { metadata := { name := ⟨"orders", by decide⟩ } }
    ∃ c, Context.enter {} layer = .ok c ∧
      let w : Work := { sequence := { identity := orders }, journal := { contexts := [c] } }
      ∃ r ∈ Call.records default (.reconcile none none) w, r.logger = passLogger.name ∧
        r.field? "sequence" = some (.str "billing") ∧ ¬ r.Names w.sequence := by
  intro layer orders
  refine ⟨_, rfl, ?_⟩
  intro w
  have hextra : (ofList w.journal.context.extra).get? ContextKey.sequence.name = some (.str "billing") := by
    decide
  let report := (w.reconcile default [] []).1
  have hfield : (passLogger.record w.passContext.entries report.level report.line report.data.entries).field? "sequence" =
      some (.str "billing") :=
    (field?_record_of_passed passLogger _ _ _ (k := .sequence) rfl).trans
      (by rw [hextra]; rfl)
  refine ⟨_, List.mem_of_getLast? (List.getLast?_concat (l := [_, _, _])), rfl, hfield, fun hnames => ?_⟩
  have hname := hfield.symm.trans hnames.sequence
  revert hname
  decide

end Work

end Readiness
