import Mathlib.Data.List.Chain
import Readiness.Proofs.Sequence.Outcome

/-!
# What the log tells of passes

A pass writes four records, all from within its own block: one for each sort of children, a checkpoint, and at last how
it ended. The level of the last one, and the text where something changed, are enough to follow the happy condition
through any number of passes: whoever knows its status before them can read off the status after each (`replay`). Between
passes nothing is lost either, as a report starts from the status that the one before ended with.
-/
namespace Readiness

open Calendar Log ConditionSet Conditions SequenceStatus

/-! ## The records of one pass -/

namespace ChildKind

/-- What is logged about the children of one sort. -/
def progress (k : ChildKind) (children : List (Option Condition)) : Entries := Fields.entries [
  (k.countField, .int children.length),
  ("all_ready", .bool (Finding.everyReady children))]

theorem logPropagated_observeAll (k : ChildKind) (now : DateTime) (before : List StageStatus)
    (children : List (Reference × Option Condition)) (j : Journal) :
    k.logPropagated (observeAll now k before children) j =
      j.log statusLogger Level.debug k.propagated (k.progress (children.map (·.2))) := by
  rw [logPropagated, allReady_observeAll, length_observeAll, progress, List.length_map]

end ChildKind

namespace Work

variable (now : DateTime) (cs : List Channel) (ss : List Subscription) (w : Work)

theorem journal_propagateChannels : (w.propagateChannels now cs).journal =
    w.journal.log statusLogger Level.debug ChildKind.channel.propagated
      (ChildKind.channel.progress (cs.map Channel.ready?)) := by
  have hentries : (w.propagateChannels now cs).sequence.status.channels =
      observeAll now .channel w.sequence.status.channels (cs.map Channel.seen) :=
    entries_apply .channel now w.sequence.status (.propagateChannels (some cs))
  show ChildKind.channel.logPropagated (w.propagateChannels now cs).sequence.status.channels w.journal = _
  rw [hentries, ChildKind.logPropagated_observeAll, List.map_map]
  rfl

theorem journal_propagateSubscriptions : (w.propagateSubscriptions now ss).journal =
    w.journal.log statusLogger Level.debug ChildKind.subscription.propagated
      (ChildKind.subscription.progress (ss.map Subscription.ready?)) := by
  have hentries : (w.propagateSubscriptions now ss).sequence.status.subscriptions =
      observeAll now .subscription w.sequence.status.subscriptions (ss.map Subscription.seen) :=
    entries_apply .subscription now w.sequence.status (.propagateSubscriptions (some ss))
  show ChildKind.subscription.logPropagated (w.propagateSubscriptions now ss).sequence.status.subscriptions
    w.journal = _
  rw [hentries, ChildKind.logPropagated_observeAll, List.map_map]
  rfl

/-- The context that the records of a pass are made in. -/
def passContext (w : Work) : Context := w.journal.context.inside w.passLayer

/-- What a pass adds to the log. -/
def passRecords (w : Work) : List Record :=
  let report := (w.reconcile now cs ss).1
  [statusLogger.record w.passContext.entries Level.debug ChildKind.channel.propagated
      (ChildKind.channel.progress (cs.map Channel.ready?)),
    statusLogger.record w.passContext.entries Level.debug ChildKind.subscription.propagated
      (ChildKind.subscription.progress (ss.map Subscription.ready?)),
    Checkpoint.record now w.passContext Checkpoint.logger "status_propagated" report.data.toValue,
    passLogger.record w.passContext.entries report.level report.line report.data.entries]

theorem records_reconcile :
    (w.reconcile now cs ss).2.journal.records = w.journal.records ++ passRecords now cs ss w := by
  let inner : Work := ⟨w.sequence, w.journal.enter w.passLayer⟩
  let report := (w.reconcile now cs ss).1
  have hderive : (inner.derive now cs ss).journal =
      (inner.journal.log statusLogger Level.debug ChildKind.channel.propagated
        (ChildKind.channel.progress (cs.map Channel.ready?))).log statusLogger Level.debug
          ChildKind.subscription.propagated (ChildKind.subscription.progress (ss.map Subscription.ready?)) := by
    show (((inner.onStatus (·.seedMissing now)).propagateChannels now cs).propagateSubscriptions now ss).journal = _
    rw [journal_propagateSubscriptions, journal_propagateChannels]
    rfl
  show (((inner.derive now cs ss).journal.checkpoint now "status_propagated" report.data).log passLogger
    report.level report.line report.data.entries).records = _
  rw [hderive]
  simp only [Journal.log, Journal.write, Journal.checkpoint, List.append_assoc, List.cons_append, List.nil_append]
  rfl

end Work

/-! ## Reading records -/

/-- The status that a text ends with after an arrow. -/
def Text.arrival? (t : Text) : Option Status :=
  [Status.yes, .no, .unknown].find? fun s => decide ((Text.ofString (" -> " ++ s.text)).points <:+ t.points)

theorem Text.arrival?_of_suffix {t : Text} {s : Status} (h : (Text.ofString (" -> " ++ s.text)).points <:+ t.points) :
    t.arrival? = some s := by
  -- no status ends another one's arrow
  have hother : ∀ u : Status, u ≠ s → ¬ (Text.ofString (" -> " ++ u.text)).points <:+ t.points := by
    intro u hu hsuffix
    rcases List.suffix_or_suffix_of_suffix h hsuffix with h' | h' <;> revert h' <;> revert hu <;> cases u <;> cases s <;>
      decide
  cases s with
  | yes => simp [arrival?, h]
  | no => simp [arrival?, h, hother .yes (by decide)]
  | unknown => simp [arrival?, h, hother .yes (by decide), hother .no (by decide)]

namespace Log.Record

/-- A record of how a pass ended. -/
def IsOutcome (r : Record) : Prop := r.logger = passLogger.name

/-- The checkpoint of a pass. -/
def IsCheckpoint (r : Record) : Prop := r.logger = Checkpoint.logger ∧ r.message = "CHECKPOINT: status_propagated"

instance (r : Record) : Decidable r.IsOutcome := inferInstanceAs (Decidable (_ = _))

instance (r : Record) : Decidable r.IsCheckpoint := inferInstanceAs (Decidable (_ ∧ _))

/-- The status of the happy condition after a pass, by its level and its text alone, from the status before. -/
def told (before : Option Status) (r : Record) : Option Status :=
  if r.level = Level.warning then some .no
  else if r.level = Level.info then r.message.arrival?
  else before

/-- The statuses that records tell, one after another. -/
def replay : Option Status → List Record → List (Option Status)
  | _, [] => []
  | before, r :: rs => r.told before :: replay (r.told before) rs

end Log.Record

namespace Report

open Log.Record

theorem level_eq (r : Report) : r.level =
    if r.status = .no then Level.warning else if r.previous ≠ some r.status then Level.info else Level.debug := by
  simp [level, changed]

theorem arrival?_line {r : Report} (hno : r.status ≠ .no) (hchanged : r.previous ≠ some r.status) :
    r.line.arrival? = some r.status := by
  apply Text.arrival?_of_suffix
  let before := r.previous.elim "None" Status.text
  have hline : r.line = "Sequence " ++ r.space ++ "/" ++ r.sequence ++
      Text.ofString s!" Ready {before} -> {r.status.text}" := by
    simp [line, changed, hno, hchanged, before]
  rw [hline]
  refine List.suffix_append_of_suffix ?_
  refine ⟨(Text.ofString s!" Ready {before}").points, ?_⟩
  simp [Text.ofString, Text.ofChars]
  rfl

/-- The record of a report tells the status, from the one before. -/
theorem told_record {r : Report} {record : Record} (hlevel : record.level = r.level) (hmessage : record.message = r.line) :
    record.told r.previous = some r.status := by
  have hinfo : Level.info ≠ Level.warning := by decide
  have hwarning : Level.debug ≠ Level.warning := by decide
  have hdebug : Level.debug ≠ Level.info := by decide
  rw [Record.told, hlevel, hmessage, level_eq]
  by_cases hno : r.status = .no
  · simp [hno]
  · by_cases hchanged : r.previous = some r.status
    · simp [hno, hchanged, hwarning, hdebug]
    · simp [hno, hchanged, hinfo, arrival?_line hno hchanged]

end Report

namespace Work

open Log.Record

/-! ## One pass -/

/-- The status of the happy condition, where there is one. -/
def ready? (w : Work) : Option Status := w.sequence.status.conditions.statusOf? sequenceConditions.happy

/-- What a pass is run with. -/
structure Visit where
  now : DateTime
  channels : Option (List Channel)
  subscriptions : Option (List Subscription)

def visit (v : Visit) (w : Work) : Report × Work :=
  w.reconcile v.now (v.channels.getD []) (v.subscriptions.getD [])

/-- What is left of a pass: the status of the happy condition on both sides of it, its report and its records. -/
structure Trace where
  before : Option Status
  after : Option Status
  report : Report
  records : List Record

/-- What is left of passes over one sequence. -/
def traces : List Visit → Work → List Trace
  | [], _ => []
  | v :: vs, w =>
    let (report, after) := w.visit v
    ⟨w.ready?, after.ready?, report, after.journal.records.drop w.journal.records.length⟩ :: traces vs after

/-- The work after passes over one sequence. -/
def visitAll (vs : List Visit) (w : Work) : Work := vs.foldl (fun w v => (w.visit v).2) w

/-- A pass leaves a happy condition, whatever it started from. -/
theorem ready?_visit (v : Visit) (w : Work) : (w.visit v).2.ready? = some (w.visit v).1.status := by
  have hpresent : (w.visit v).2.sequence.status.conditions.get? sequenceConditions.happy ≠ none := by
    show (w.sequence.status.pass w v.now v.channels v.subscriptions).conditions.get? _ ≠ none
    rw [marks_of_pass]
    exact Finding.get?_marks_ne_none v.now _
      (get?_seedMissing_ne_none wellNamed_sequenceConditions v.now _ _ List.mem_cons_self)
  have hreport : (w.visit v).1.status =
      ((w.visit v).2.sequence.status.conditions.get? sequenceConditions.happy).elim .unknown (·.status) := rfl
  obtain ⟨c, hc⟩ := Option.ne_none_iff_exists'.1 hpresent
  rw [ready?, statusOf?, hreport, hc]
  rfl

/-- What one pass leaves agrees: its report tells the status on both sides of it, and of its records exactly one is the
checkpoint and exactly one tells the outcome, at a level that goes by the two statuses. -/
structure Trace.Faithful (t : Trace) : Prop where
  previous : t.report.previous = t.before
  status : t.after = some t.report.status
  checkpoint : ∃ r, t.records.filter IsCheckpoint = [r]
  outcome : ∃ r, t.records.filter IsOutcome = [r] ∧
    r.level = (if t.after = some .no then Level.warning
      else if t.before ≠ t.after then Level.info else Level.debug) ∧
    r.told t.before = t.after

theorem filter_isCheckpoint_passRecords (now : DateTime) (cs : List Channel) (ss : List Subscription) (w : Work) :
    (passRecords now cs ss w).filter IsCheckpoint = [Checkpoint.record now w.passContext Checkpoint.logger
      "status_propagated" (w.reconcile now cs ss).1.data.toValue] := by
  have hstatus : statusLogger.name ≠ Checkpoint.logger := by decide
  have hpass : passLogger.name ≠ Checkpoint.logger := by decide
  have hmessage : Text.ofString "CHECKPOINT: " ++ "status_propagated" = Text.ofString "CHECKPOINT: status_propagated" := by
    decide
  simp [passRecords, IsCheckpoint, Logger.record, Checkpoint.record, hstatus, hpass, hmessage]

theorem filter_isOutcome_passRecords (now : DateTime) (cs : List Channel) (ss : List Subscription) (w : Work) :
    (passRecords now cs ss w).filter IsOutcome = [passLogger.record w.passContext.entries (w.reconcile now cs ss).1.level
      (w.reconcile now cs ss).1.line (w.reconcile now cs ss).1.data.entries] := by
  have hstatus : statusLogger.name ≠ passLogger.name := by decide
  have hcheckpoint : Checkpoint.logger ≠ passLogger.name := by decide
  simp [passRecords, IsOutcome, Logger.record, Checkpoint.record, hstatus, hcheckpoint]

theorem drop_records_visit (v : Visit) (w : Work) : (w.visit v).2.journal.records.drop w.journal.records.length =
    passRecords v.now (v.channels.getD []) (v.subscriptions.getD []) w := by
  rw [visit, records_reconcile, List.drop_left]

theorem faithful_visit (v : Visit) (w : Work) : Trace.Faithful
    ⟨w.ready?, (w.visit v).2.ready?, (w.visit v).1,
      (w.visit v).2.journal.records.drop w.journal.records.length⟩ := by
  have hafter := ready?_visit v w
  have hprevious : (w.visit v).1.previous = w.ready? := rfl
  constructor
  case previous => exact hprevious
  case status => exact hafter
  case checkpoint =>
    dsimp only
    rw [drop_records_visit, filter_isCheckpoint_passRecords]
    exact ⟨_, rfl⟩
  case outcome =>
    dsimp only
    rw [drop_records_visit, filter_isOutcome_passRecords, hafter, ← hprevious]
    refine ⟨_, rfl, ?_, Report.told_record rfl rfl⟩
    refine (Report.level_eq (w.visit v).1).trans ?_
    simp only [Option.some.injEq]

/-! ## Any number of passes -/

theorem records_visitAll (vs : List Visit) (w : Work) :
    (w.visitAll vs).journal.records = w.journal.records ++ (w.traces vs).flatMap Trace.records := by
  induction vs generalizing w with
  | nil => simp [visitAll, traces]
  | cons v vs ih =>
    have hstep : (w.visit v).2.journal.records = w.journal.records ++
        (w.visit v).2.journal.records.drop w.journal.records.length := by
      rw [drop_records_visit, visit, records_reconcile]
    show ((w.visit v).2.visitAll vs).journal.records = _
    rw [ih, traces, List.flatMap_cons, ← List.append_assoc, ← hstep]

theorem faithful_of_mem_traces {vs : List Visit} {w : Work} : ∀ t ∈ w.traces vs, t.Faithful := by
  induction vs generalizing w with
  | nil => simp [traces]
  | cons v vs ih =>
    intro t ht
    rcases List.mem_cons.1 ht with rfl | ht
    · exact faithful_visit v w
    · exact ih t ht

/-- A pass starts from what the one before ended with. -/
theorem isChain_traces (vs : List Visit) (w : Work) :
    (w.traces vs).IsChain fun t u => u.report.previous = some t.report.status := by
  induction vs generalizing w with
  | nil => exact .nil
  | cons v vs ih =>
    cases vs with
    | nil => exact .singleton _
    | cons v' vs => exact .cons_cons (ready?_visit v w) (ih (w.visit v).2)

theorem replay_traces (vs : List Visit) (w : Work) :
    replay w.ready? (((w.traces vs).flatMap Trace.records).filter IsOutcome) = (w.traces vs).map Trace.after := by
  induction vs generalizing w with
  | nil => rfl
  | cons v vs ih =>
    obtain ⟨r, hr, -, htold⟩ := (faithful_visit v w).outcome
    dsimp only at hr htold
    rw [traces, List.flatMap_cons, List.filter_append, hr, List.singleton_append, replay, htold, ih]
    rfl

/-- **The log tells the history of the happy condition.** Over any passes over a sequence with any stored status, with
any children, at any times and in any blocks: each report starts from the status that the one before ended with. Each
pass leaves exactly one checkpoint and exactly one record of its outcome, which is a warning if the happy condition is
false after it, otherwise news if its status has changed and a trace if not. From the status before all of them, the
levels and texts of these records alone tell the status after each pass. And where the happy condition has become true
or unknown, there is news of it. -/
theorem history_of_passes (vs : List Visit) (w : Work) :
    let ts := w.traces vs
    (ts.IsChain fun t u => u.report.previous = some t.report.status) ∧
    (∀ t ∈ ts, t.Faithful) ∧
    (w.visitAll vs).journal.records = w.journal.records ++ ts.flatMap Trace.records ∧
    replay w.ready? ((ts.flatMap Trace.records).filter IsOutcome) = ts.map Trace.after ∧
    ∀ t ∈ ts, ∀ s ≠ Status.no, t.after = some s → t.before ≠ some s →
      ∃ r ∈ t.records, r.IsOutcome ∧ r.level = Level.info ∧ r.message.arrival? = some s := by
  intro ts
  refine ⟨isChain_traces vs w, faithful_of_mem_traces, records_visitAll vs w, replay_traces vs w, ?_⟩
  intro t ht s hs hafter hbefore
  obtain ⟨r, hr, hlevel, htold⟩ := (faithful_of_mem_traces t ht).outcome
  have hmem : r ∈ t.records.filter IsOutcome := by simp [hr]
  obtain ⟨hrecord, houtcome⟩ := List.mem_filter.1 hmem
  have hinfo : r.level = Level.info := by
    rw [hlevel, hafter, if_neg (by simpa using hs), if_pos hbefore]
  refine ⟨r, hrecord, of_decide_eq_true houtcome, hinfo, ?_⟩
  have hwarning : Level.info ≠ Level.warning := by decide
  rwa [told, hinfo, if_neg hwarning, if_pos rfl, hafter] at htold

/-- The children come after the first pass and are gone before the last one. -/
theorem history_of_passes_while_children_come_and_go :
    let yes : Condition := { type := ⟨"Ready", by decide⟩, status := .yes }
    let channel : Channel := { status := {
      health := { conditions := [yes] }
      address := some { url := some "http://first.example" } } }
    let subscription : Subscription := { status := { health := { conditions := [yes] } } }
    let created : Condition := { type := Aspect.identity.name, status := .yes }
    let w : Work := { sequence := { status := { health := { conditions := [created] } } } }
    let without : Visit := ⟨default, none, none⟩
    let complete : Visit := ⟨default, some [channel], some [subscription]⟩
    let ts := w.traces [without, complete, complete, without]
    replay w.ready? ((ts.flatMap Trace.records).filter IsOutcome) =
      [some .unknown, some .yes, some .yes, some .unknown] := by
  intro yes channel subscription created w without complete ts
  rw [(history_of_passes [without, complete, complete, without] w).2.2.2.1]
  decide

end Work

end Readiness
