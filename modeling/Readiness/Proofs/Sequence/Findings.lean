import Readiness.Proofs.Sequence.Entries

/-!
# What a pass finds

Propagating children comes down to a few findings, each about one aspect: it is as it should be, or there is trouble
with it. A finding depends on the children alone, not on the status or on the time, and on the conditions a
propagation does nothing but mark its findings in order (`conditions_pass`). Results about passes are therefore results
about lists of marks with distinct aspects.
-/
namespace Readiness

open Calendar ConditionSet Conditions Declaration

structure Finding where
  aspect : Aspect
  /-- The reason and the message, where something is not as it should be. -/
  trouble : Option (Text × Text)

namespace Finding

def status (f : Finding) : Status := if f.trouble.isSome then .unknown else .yes

def mark (now : DateTime) (f : Finding) (cs : Conditions) : Conditions :=
  match f.trouble with
  | none => (sequenceConditions.markTrueWith now f.aspect.type "" "" cs).conditions
  | some (reason, message) => (sequenceConditions.markUnknown now f.aspect.type reason message cs).conditions

theorem mark_of_none {now : DateTime} {f : Finding} {cs : Conditions} (h : f.trouble = none) :
    f.mark now cs = (sequenceConditions.markTrueWith now f.aspect.name.val "" "" cs).conditions := by
  rw [mark, h]
  rfl

theorem mark_of_some {now : DateTime} {f : Finding} {cs : Conditions} {t : Text × Text} (h : f.trouble = some t) :
    f.mark now cs = (sequenceConditions.markUnknown now f.aspect.name.val t.1 t.2 cs).conditions := by
  rw [mark, h]
  rfl

/-- Mark findings in order. -/
def marks (now : DateTime) (fs : List Finding) (cs : Conditions) : Conditions :=
  fs.foldl (fun cs f => f.mark now cs) cs

/-- There is trouble with an address that has no URL. -/
def ofAddress (a : Option Address) : Finding where
  aspect := .address
  trouble := if (a.bind Address.target?).isSome then none else some ("emptyAddress", "addressable is nil")

/-- Children are ready if there are some and each of them is. -/
def everyReady (children : List (Option Condition)) : Bool :=
  !children.isEmpty && children.all fun ready? => ready?.any (·.status = .yes)

def ofChildren (k : ChildKind) (children : List (Option Condition)) : Finding where
  aspect := k.aspect
  trouble := if everyReady children then none else some (k.notReadyReason, k.notReadyMessage)

/-- Without channels nothing is found out about the address. -/
def ofChannels : List Channel → List Finding
  | [] => [ofChildren .channel []]
  | c :: cs => [ofAddress c.status.address, ofChildren .channel ((c :: cs).map Channel.ready?)]

def ofPass (cs : List Channel) (ss : List Subscription) : List Finding :=
  ofChannels cs ++ [ofChildren .subscription (ss.map Subscription.ready?)]

end Finding

namespace SequenceStatus

open Finding

variable {now : DateTime} {s : SequenceStatus}

/-! ## Entries -/

theorem status_observe (k : ChildKind) (previous : Option StageStatus) (child : Reference) (ready? : Option Condition) :
    (observe now k previous child ready?).ready.status = ready?.elim .unknown (·.status) := by
  cases ready? with
  | some c => rfl
  | none =>
    obtain ⟨time, hstand⟩ := standsFor_observe now k previous child
    rw [hstand]
    rfl

theorem allReady_observeAll (k : ChildKind) (before : List StageStatus)
    (children : List (Reference × Option Condition)) :
    allReady (observeAll now k before children) = everyReady (children.map (·.2)) := by
  have hall : ∀ before : List StageStatus,
      ((observeAll now k before children).all fun e => e.ready.status = .yes) =
        (children.map (·.2)).all fun ready? => ready?.any (·.status = .yes) := by
    induction children with
    | nil => intro before; rfl
    | cons child rest ih =>
      intro before
      obtain ⟨child, ready?⟩ := child
      rw [observeAll, List.all_cons, status_observe, ih, List.map_cons, List.all_cons]
      cases ready? <;> rfl
  have hempty : (observeAll now k before children).isEmpty = (children.map (·.2)).isEmpty := by
    cases children <;> rfl
  rw [allReady, hempty, hall]
  rfl

/-! ## Propagations mark their findings -/

theorem conditions_setAddress (a : Option Address) :
    (s.setAddress now a).conditions = (ofAddress a).mark now s.conditions := by
  unfold setAddress ofAddress mark
  cases a.bind Address.target? <;> rfl

theorem conditions_markChildren (k : ChildKind) (before : List StageStatus)
    (children : List (Reference × Option Condition)) :
    (s.markChildren now k (observeAll now k before children)).conditions =
      (ofChildren k (children.map (·.2))).mark now s.conditions := by
  unfold markChildren ofChildren mark
  rw [allReady_observeAll]
  split <;> rfl

theorem conditions_propagateChannels (cs : List Channel) :
    (s.propagateChannels now cs).conditions = marks now (ofChannels cs) s.conditions := by
  unfold propagateChannels
  dsimp only
  rw [conditions_markChildren, List.map_map]
  cases cs with
  | nil => rfl
  | cons c cs =>
    show mark now _ (s.setAddress now c.status.address).conditions = _
    rw [conditions_setAddress]
    rfl

theorem conditions_propagateSubscriptions (ss : List Subscription) :
    (s.propagateSubscriptions now ss).conditions =
      (ofChildren .subscription (ss.map Subscription.ready?)).mark now s.conditions := by
  unfold propagateSubscriptions
  dsimp only
  rw [conditions_markChildren, List.map_map]
  rfl

theorem conditions_propagations (cs : List Channel) (ss : List Subscription) :
    ((s.propagateChannels now cs).propagateSubscriptions now ss).conditions =
      marks now (ofPass cs ss) s.conditions := by
  rw [conditions_propagateSubscriptions, conditions_propagateChannels, ofPass, marks, marks, List.foldl_append]
  rfl

/-- **A pass, as far as the conditions go**: what is missing is seeded, and what was found is marked. -/
theorem conditions_pass (host : Work) (channels : Option (List Channel)) (subscriptions : Option (List Subscription)) :
    (s.pass host now channels subscriptions).conditions =
      marks now (ofPass (channels.getD []) (subscriptions.getD []))
        (sequenceConditions.seedMissing now s.conditions).conditions :=
  conditions_propagations (s := s.seedMissing now) _ _

end SequenceStatus

end Readiness
