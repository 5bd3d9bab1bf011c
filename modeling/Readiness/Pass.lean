import Readiness.Log.Journal
import Readiness.Sequence.Basic
import Readiness.Text.Blank

/-!
# Status passes

One pass derives the status of a sequence from complete lists of its children and reports where its happy condition
ended up. A pass logs what it did, in a block of its own that names the sequence. Fetching the children, and
deciding when to run again, is the business of the caller; that a fetch failed can be recorded instead of a pass.

Both are done in a context that can be copied, as that of their own block always can. Called in a context that cannot be
copied, they end with the first message that they would log (`Call.perform`). The journal takes messages of every level.
-/
namespace Readiness

open Calendar Log

/-- `StatusReport`: what a pass found. -/
structure Report where
  sequence : Text
  space : Text
  status : Status
  reason : Text := ""
  message : Text := ""
  previous : Option Status := none
  channelCount : Nat := 0
  subscriptionCount : Nat := 0
  notReady : List Text := []
deriving DecidableEq, Repr

namespace Report

def ready (r : Report) : Bool := r.status = .yes

def changed (r : Report) : Bool := r.previous ≠ some r.status

/-- `_build_report`: the report on a status. Every dependent that is not true is listed as not ready. -/
def ofSequence (s : Sequence) (previous : Option Status) (channelCount subscriptionCount : Nat) :
    Report :=
  let cs := s.status.conditions
  let found := cs.get? sequenceConditions.happy
  { sequence := s.identity.name
    space := s.identity.space
    status := found.elim .unknown (·.status)
    reason := found.elim "" (·.reason)
    message := found.elim "" (·.message)
    previous := previous
    channelCount := channelCount
    subscriptionCount := subscriptionCount
    notReady := (sequenceConditions.dependents.filter fun d => !cs.holds d).map .ofString }

/-- The report as log data. -/
def data (r : Report) : Fields := [
  ("ready", .str r.status.text),
  ("reason", .str r.reason),
  ("channels", .int r.channelCount),
  ("subscriptions", .int r.subscriptionCount),
  ("not_ready", .list (r.notReady.map .str))]

/-- A failure is a warning, any other change is news, and no change is worth a trace only. -/
def level (r : Report) : Level :=
  if r.status = .no then Level.warning else if r.changed then Level.info else Level.debug

def line (r : Report) : Text :=
  let subject : Text := "Sequence " ++ r.space ++ "/" ++ r.sequence
  if r.status = .no then Text.trimEnd (subject ++ " failed: " ++ r.reason ++ " " ++ r.message)
  else if r.changed then
    let before := r.previous.elim "None" Status.text
    subject ++ s!" Ready {before} -> {r.status.text}"
  else subject ++ " Ready unchanged"

end Report

/-- Logs what is derived from children. -/
def statusLogger : Logger := ⟨"core.models.sequence", some .aggregator⟩

/-- Logs how passes end. -/
def passLogger : Logger := ⟨"services.status_service", some .service⟩

namespace ChildKind

def propagated : ChildKind → String
  | .channel => "Propagated channel statuses"
  | .subscription => "Propagated subscription statuses"

def countField : ChildKind → String
  | .channel => "channel_count"
  | .subscription => "subscription_count"

/-- Children as callers name them. -/
def plural : ChildKind → String
  | .channel => "channels"
  | .subscription => "subscriptions"

def ofPlural? (s : Text) : Option ChildKind :=
  [ChildKind.channel, .subscription].find? fun k => (k.plural : Text) = s

def listFailedReason : ChildKind → String
  | .channel => "ChannelListFailed"
  | .subscription => "SubscriptionListFailed"

/-- Log that the entries of one sort of children were rebuilt. -/
def logPropagated (k : ChildKind) (entries : List StageStatus) (j : Journal) : Journal :=
  j.log statusLogger Level.debug k.propagated (Fields.entries [
    (k.countField, .int entries.length),
    ("all_ready", .bool (SequenceStatus.allReady entries))])

end ChildKind

/-- A sequence and the journal of the work on it. -/
structure Work where
  sequence : Sequence
  journal : Journal := {}

namespace Work

/-- Change the status. -/
def onStatus (f : SequenceStatus → SequenceStatus) (w : Work) : Work :=
  { w with sequence := w.sequence.mapStatus f }

def propagateChannels (now : DateTime) (cs : List Channel) (w : Work) : Work :=
  let after := w.onStatus (·.propagateChannels now cs)
  { after with journal := ChildKind.channel.logPropagated after.sequence.status.channels w.journal }

def propagateSubscriptions (now : DateTime) (ss : List Subscription) (w : Work) : Work :=
  let after := w.onStatus (·.propagateSubscriptions now ss)
  { after with
    journal := ChildKind.subscription.logPropagated after.sequence.status.subscriptions w.journal }

/-- The block of a sequence: its name and namespace. -/
def layer (w : Work) : Layer :=
  Layer.pass .space (.str w.sequence.identity.space)
    (Layer.pass .sequence (.str w.sequence.identity.name) {})

/-- The block of a pass. -/
def passLayer (w : Work) : Layer := w.layer.pass .operation (.str "reconcile_status")

/-- Work in a block. -/
def within {α : Type} (l : Layer) (body : Work → α × Work) (w : Work) : α × Work :=
  let (a, after) := body { w with journal := w.journal.enter l }
  (a, { after with journal := after.journal.leave })

/-- `_log_report`: log a report: a checkpoint, then how the pass ended. -/
def logReport (now : DateTime) (r : Report) (w : Work) : Work :=
  let marked := w.journal.checkpoint now "status_propagated" r.data
  { w with journal := marked.log passLogger r.level r.line r.data.entries }

/-- The derivation itself: seed what is missing, take over the children, note the generation. -/
def derive (now : DateTime) (cs : List Channel) (ss : List Subscription) (w : Work) : Work :=
  let seeded := w.onStatus (·.seedMissing now)
  let propagated := (seeded.propagateChannels now cs).propagateSubscriptions now ss
  let generation := propagated.sequence.identity.metadata.generation
  propagated.onStatus fun s => { s with health := { s.health with observedGeneration := generation } }

/-- `reconcile_status`: run one pass. -/
def reconcile (now : DateTime) (cs : List Channel) (ss : List Subscription) (w : Work) :
    Report × Work :=
  w.within w.passLayer fun w =>
    let previous := w.sequence.status.conditions.statusOf? sequenceConditions.happy
    let derived := w.derive now cs ss
    let r := Report.ofSequence derived.sequence previous cs.length ss.length
    (r, derived.logReport now r)

/-- Children are either channels or subscriptions. -/
structure UnknownChildKind where
  name : Text
deriving DecidableEq, Repr

def UnknownChildKind.message (f : UnknownChildKind) : Text := "Unknown child kind: " ++ f.name

/-- `mark_fetch_failure`: record that the children of one kind could not be listed. -/
def markFetchFailure (now : DateTime) (kind : Text) (error : Text) (w : Work) :
    Except UnknownChildKind Unit × Work :=
  w.within w.layer fun w =>
    match ChildKind.ofPlural? kind with
    | some k =>
      let marked := w.onStatus (·.markUnknown now k.aspect k.listFailedReason error)
      let line : Text := "Failed to list " ++ kind ++ ": " ++ error
      let passed := Fields.entries [("condition", .str k.aspect.type)]
      let logged := w.journal.log passLogger Level.warning line passed
      (.ok (), { marked with journal := logged })
    | none => (.error ⟨kind⟩, w)

/-! ## Calls -/

/-- What callers can do to a sequence. -/
inductive Call
  | reconcile (channels : Option (List Channel)) (subscriptions : Option (List Subscription))
  | fetchFailure (kind error : Text)

/-- Why a call raises. -/
inductive CallFault
  | unknownChildKind (f : UnknownChildKind)
  | uncopied (f : Uncopied)
deriving DecidableEq

/-- The block that a call works in. -/
def Call.layer (w : Work) : Call → Layer
  | .reconcile .. => w.passLayer
  | .fetchFailure .. => w.layer

/-- The context that a call works in. -/
def Call.context (w : Work) (call : Call) : Context := w.journal.context.inside (call.layer w)

/-- A call. No list of children at all counts as an empty one. Where the context cannot be copied, the first call of a
logger raises: that is after the channels of a pass, and after the mark of a failed fetch. What was done to the sequence
until then stays. -/
def Call.perform (now : DateTime) (call : Call) (w : Work) : Except CallFault (Option Report) × Work :=
  let shown := (call.context w).fields
  match call with
  | .reconcile channels subscriptions =>
    match shown with
    | .ok _ =>
      let (report, after) := w.reconcile now (channels.getD []) (subscriptions.getD [])
      (.ok (some report), after)
    | .error f =>
      (.error (.uncopied f), w.onStatus fun s => (s.seedMissing now).propagateChannels now (channels.getD []))
  | .fetchFailure kind error =>
    match w.markFetchFailure now kind error, shown with
    | (.error f, after), _ => (.error (.unknownChildKind f), after)
    | (.ok (), after), .ok _ => (.ok none, after)
    | (.ok (), after), .error f => (.error (.uncopied f), { w with sequence := after.sequence })

end Work

end Readiness
