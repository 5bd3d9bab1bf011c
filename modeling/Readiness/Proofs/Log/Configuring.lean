import Readiness.Proofs.Defaults.Freezing
import Readiness.Proofs.Text.Uppercase

/-!
# Configured logging

A call that configures logging takes the name of a level, its own or that of the environment, to upper case. What then
names no level counts as INFO, only two names are refused, for they mean something else (`ofName?_eq_none_iff`). Whatever
sinks there were before, a call that is not refused leaves the console as the only one, in the format that it selects,
and turns that configure nothing keep it so (`printing_run`). From then on the console grows by the line of every record
that passes, once, in the order of the records (`Turn.transcript`), until the next call that is not refused
(`setup_of_call`). A record has no line if its formatter cannot write a value in it, or wants the context where that
cannot be copied. The console takes any text: the encoding of the standard output, which may have no form for a
character, is not modelled.
-/
namespace Readiness

open Log Text

/-! ## What a call asks for -/

/-- The name of the level: the one that is given, or else that of the environment. -/
def requestedName (e : Environment) (level : Option Text) : Text := level.getD ((e .logLevel).getD "INFO")

/-- The format: the one that is given, or else that of the environment. -/
def requestedFormat (e : Environment) (json : Value) : Format :=
  if (flag? json).getD (lower ((e .logFormat).getD "") = "json") then .structured else .human

namespace Log

theorem Namesake.ofName?_eq_none_iff (name : Text) :
    Namesake.ofName? name = none ↔ name ≠ "BASIC_FORMAT" ∧ name ≠ "_STYLES" := by
  simp [Namesake.ofName?, List.lookup_eq_none_iff]

/-- Upper case is taken once, wherever the name comes from. -/
theorem resolve_upper (name : Text) : (LevelChoice.named (upper name)).resolve = (LevelChoice.named name).resolve := by
  simp only [LevelChoice.resolve, upper_upper]

theorem ofDefaults_ofEnvironment (e : Environment) (level : Option Text) (json : Value) :
    Setup.ofDefaults (.ofEnvironment e) (level.map .named) (flag? json) =
      (LevelChoice.named (requestedName e level)).resolve.map fun threshold => ⟨threshold, requestedFormat e json⟩ := by
  have hresolve : ((level.map LevelChoice.named).getD (.named (LoggingDefaults.ofEnvironment e).level)).resolve =
      (LevelChoice.named (requestedName e level)).resolve := by
    cases level with
    | none => exact resolve_upper _
    | some name => rfl
  unfold Setup.ofDefaults
  rw [hresolve]
  cases (LevelChoice.named (requestedName e level)).resolve <;> rfl

/-! ## Printing -/

/-- What the console shows of a record in a format: nothing of a record that cannot be written. -/
def Format.written (f : Format) (now : Calendar.DateTime) (c : Context) (e : Entry) : Text :=
  match f.line now c e with
  | .ok line => line ++ "\n"
  | .error _ => ""

theorem Session.console_emit {s : Session} {f : Format} (hs : s.sinks = [.console f]) (e : Entry) :
    (s.emit e).2.console = s.console ++ f.written s.now s.journal.context e := by
  have hemit : (s.emit e).2 = (s.deliver e (.console f)).2 := by
    simp only [Session.emit, hs, Session.deliverAll]
    split <;> rename_i hdeliver <;> rw [hdeliver]
  rw [hemit]
  unfold Session.deliver Format.written
  dsimp only
  split
  · rename_i line hline
    rw [hline]
    exact append_assoc s.console line "\n"
  · rename_i hline
    rw [hline]
    exact (append_nil s.console).symm
  · rename_i failure _ hline
    rw [hline]
    exact (append_nil s.console).symm

end Log

namespace Turn

variable {t : Turn} {turns : List Turn} {s : Session} {f : Format}

/-- The record that a turn makes. A logger makes none in a context that cannot be copied. -/
def logged? (s : Session) : Turn → Option Entry
  | .log l level message passed origin =>
    match s.journal.context.fields with
    | .ok shown => some ⟨l.record shown level message passed, origin, none⟩
    | .error _ => none
  | .checkpoint logger name given origin =>
    some ⟨Checkpoint.record s.now s.journal.context logger name given, origin, none⟩
  | _ => none

/-- What the console shows of a turn: the record that it makes, if its level passes. -/
def printed (f : Format) (s : Session) (t : Turn) : Text :=
  match t.logged? s with
  | some e => if s.enabled e.record.level then f.written s.now s.journal.context e else ""
  | none => ""

/-- What the console shows of turns, in their order. -/
def transcript (f : Format) : List Turn → Session → Text
  | [], _ => ""
  | t :: turns, s => t.printed f s ++ transcript f turns (t.apply s).2

/-- None of the turns configures logging. A call that is refused does not. -/
def Undisturbed : List Turn → Session → Prop
  | [], _ => True
  | t :: turns, s => (∀ made, (t.apply s).1 ≠ .configured (.ok made)) ∧ Undisturbed turns (t.apply s).2

theorem apply_of_logged? {e : Entry} (h : t.logged? s = some e) :
    t.apply s = (.nothing, if s.enabled e.record.level then (s.emit e).2 else s) := by
  cases t with
  | log l level message passed origin =>
    cases hshown : s.journal.context.fields with
    | error f => simp [logged?, hshown] at h
    | ok shown =>
      obtain rfl : Entry.mk (l.record shown level message passed) origin none = e := by
        simpa [logged?, hshown] using h
      by_cases hlevel : s.enabled level <;> simp [apply, Session.log, hshown, hlevel, Logger.record]
  | checkpoint logger name given origin =>
    rw [← Option.some.inj h]
    by_cases hlevel : s.enabled Level.info <;> simp [apply, Session.checkpoint, hlevel, Checkpoint.record]
  | _ => simp [logged?] at h

/-- A turn that makes no record and does not configure logging leaves logging as it is. -/
theorem logging_apply (hlogged : t.logged? s = none) (h : ∀ made, (t.apply s).1 ≠ .configured (.ok made)) :
    (t.apply s).2.threshold = s.threshold ∧ (t.apply s).2.sinks = s.sinks ∧ (t.apply s).2.console = s.console := by
  cases t with
  | checkpoint => simp [logged?] at hlogged
  | log l level message passed origin =>
    cases hshown : s.journal.context.fields with
    | ok shown => simp [logged?, hshown] at hlogged
    | error f =>
      simp only [apply, Session.log, hshown]
      split <;> exact ⟨rfl, rfl, rfl⟩
  | setVar | reset | defaults | sequenceType | parse | leave | clock => exact ⟨rfl, rfl, rfl⟩
  | configure level json =>
    cases hsetup : Setup.ofDefaults s.settings.current.logging level (flag? json) with
    | ok setup => exact absurd (congrArg Prod.fst (apply_configure_of_ok hsetup)) (h _)
    | error other => rw [apply_configure_of_error hsetup]; exact ⟨rfl, rfl, rfl⟩
  | enter l =>
    simp only [apply, Session.enter]
    cases s.journal.context.enter l <;> exact ⟨rfl, rfl, rfl⟩

/-- The step: with the console as its only sink, it grows by what it shows of the turn. -/
theorem printing_apply (hs : s.sinks = [.console f]) (h : ∀ made, (t.apply s).1 ≠ .configured (.ok made)) :
    (t.apply s).2.threshold = s.threshold ∧ (t.apply s).2.sinks = [.console f] ∧
      (t.apply s).2.console = s.console ++ t.printed f s := by
  unfold printed
  cases hlogged : t.logged? s with
  | none =>
    obtain ⟨hthreshold, hsinks, hconsole⟩ := logging_apply hlogged h
    exact ⟨hthreshold, hsinks.trans hs, hconsole.trans (append_nil _).symm⟩
  | some e =>
    rw [apply_of_logged? hlogged]
    dsimp only
    split
    · obtain ⟨_, _, hemit⟩ := s.exists_emit e
      refine ⟨?_, ?_, Session.console_emit hs e⟩
      · rw [hemit]
      · rw [hemit]
        exact hs
    · exact ⟨rfl, hs, (append_nil _).symm⟩

/-- The run: until logging is configured anew, threshold and sink stay, and the console shows the turns in order. -/
theorem printing_run (hs : s.sinks = [.console f]) (h : Undisturbed turns s) :
    (run turns s).threshold = s.threshold ∧ (run turns s).sinks = [.console f] ∧
      (run turns s).console = s.console ++ transcript f turns s := by
  induction turns generalizing s with
  | nil => exact ⟨rfl, hs, (append_nil _).symm⟩
  | cons t turns ih =>
    obtain ⟨hstep, hrest⟩ := h
    obtain ⟨hthreshold, hsinks, hconsole⟩ := printing_apply hs hstep
    obtain ⟨hthreshold', hsinks', hconsole'⟩ := ih hsinks hrest
    refine ⟨hthreshold'.trans hthreshold, hsinks', hconsole'.trans ?_⟩
    rw [hconsole, append_assoc]
    rfl

/-! ## The calls -/

/-- **Every call that is not refused sets up the console.** After any turns since the start of a program, whatever sinks
there were, a call that configures logging, with any name or none and any flag, goes by the environment at the first read
since the last reset where it leaves something open. It is refused if the name in upper case is one of two that mean
something else, and then nothing changes but that the defaults are read. Otherwise the threshold is the number of the
level of that name, or that of INFO if there is no such level, and the console is the only sink, in the format that the
call selects. This stays so as long as no other call sets it up, and meanwhile the console grows by each record that
passes, once, in their order. -/
theorem setup_of_call {s : Session} (hfresh : s.settings.cached = none) (past : List Turn) (level : Option Text)
    (json : Value) :
    let call : Turn := .configure (level.map .named) json
    let before := run past s
    ∃ e, FirstRead s.settings.environment (past ++ [call]) e ∧
      let name := upper (requestedName e level)
      let threshold := (Level.ofName? name).getD Level.info
      let f := requestedFormat e json
      let after := { before with settings := before.settings.read, threshold := threshold, sinks := [.console f] }
      (Namesake.ofName? name = none ↔ name ≠ "BASIC_FORMAT" ∧ name ≠ "_STYLES") ∧
      (∀ other, Namesake.ofName? name = some other → call.apply before =
        (.configured (.error other), { before with settings := before.settings.read })) ∧
      (Namesake.ofName? name = none → call.apply before = (.configured (.ok (threshold, [.console f])), after) ∧
        ∀ later, Undisturbed later after →
          (run later after).threshold = threshold ∧ (run later after).sinks = [.console f] ∧
          (run later after).console = before.console ++ transcript f later after) := by
  intro call before
  obtain ⟨e, he⟩ := exists_firstRead s.settings.environment past (t := call) rfl
  have hcurrent : before.settings.current = .ofEnvironment e := current_of_firstRead hfresh rfl he
  have hsetup : Setup.ofDefaults before.settings.current.logging (level.map .named) (flag? json) =
      (LevelChoice.named (requestedName e level)).resolve.map fun threshold => ⟨threshold, requestedFormat e json⟩ := by
    rw [hcurrent]
    exact ofDefaults_ofEnvironment e level json
  refine ⟨e, he, ?_⟩
  intro name threshold f after
  refine ⟨Namesake.ofName?_eq_none_iff name, fun other hother => ?_, fun hnone => ⟨?_, fun later hlater => ?_⟩⟩
  · have hrefused : (LevelChoice.named (requestedName e level)).resolve = .error other := by
      simp only [LevelChoice.resolve, name] at hother ⊢
      rw [hother]
    exact apply_configure_of_error (hsetup.trans (by rw [hrefused]; rfl))
  · have hlevel : (LevelChoice.named (requestedName e level)).resolve = .ok threshold := by
      simp only [LevelChoice.resolve, name] at hnone ⊢
      rw [hnone]
    have hfound : Setup.ofDefaults before.settings.current.logging (level.map .named) (flag? json) =
        .ok ⟨threshold, f⟩ := hsetup.trans (by rw [hlevel]; rfl)
    exact apply_configure_of_ok hfound
  · exact printing_run rfl hlater

/-- A level from the environment was refused, and now one is given: of several sinks the console alone is left, and a
record below the threshold does not show. -/
theorem setup_of_call_after_refusal :
    let s : Session := { now := default, sinks := [.console .human, .journal, .console .human] }
    let past : List Turn := [.setVar .logLevel (some "basic_format"), .configure none .null]
    let call : Turn := .configure (some (.named "Warn")) (.bool true)
    let record : Turn := .log ⟨"services.status_service", none⟩ Level.info "Propagated" [] ⟨"caller.py", 7, none⟩
    let before := run past s
    s.settings.cached = none ∧ before.sinks = s.sinks ∧
      (call.apply before).1 = .configured (.ok (30, [.console .structured])) ∧
      (run [record] (call.apply before).2).console = before.console := by
  intro s past call record before
  obtain ⟨e, -, -, -, hcall⟩ := setup_of_call (s := s) rfl past (some "Warn") (.bool true)
  have hname : upper (requestedName e (some "Warn")) = "WARN" :=
    show upper "Warn" = "WARN" by decide +kernel
  rw [hname] at hcall
  obtain ⟨hsetup, hlater⟩ := hcall (by decide)
  have hrefused : Setup.ofDefaults
      (Defaults.ofEnvironment (Environment.empty.set .logLevel (some "basic_format"))).logging none (flag? .null) =
        .error .plainLayout := by decide +kernel
  have hbefore : before.sinks = s.sinks :=
    congrArg (fun r => r.2.sinks)
      (apply_configure_of_error (s := ((Turn.setVar .logLevel (some "basic_format")).apply s).2) hrefused)
  refine ⟨rfl, hbefore, congrArg Prod.fst hsetup, ?_⟩
  have hsilent : (run [record] (call.apply before).2).console = before.console ++ ("" ++ "") := by
    rw [show call.apply before = _ from hsetup]
    exact (hlater [record] ⟨nofun, trivial⟩).2.2
  rw [hsilent, nil_append, append_nil]

/-- The name of the layout of plain records is refused, and so is that of the styles. -/
theorem refused_namesakes :
    let s : Session := { now := default }
    ((Turn.configure (some (.named "basic_format")) .null).apply s).1 = .configured (.error .plainLayout) ∧
      ((Turn.configure (some (.named "_styles")) .null).apply s).1 = .configured (.error .layoutStyles) ∧
      Namesake.plainLayout.message = "Unknown level: '%(levelname)s:%(name)s:%(message)s'" := by
  intro s
  have hplain : Setup.ofDefaults s.settings.current.logging (some (.named "basic_format")) (flag? .null) =
      .error .plainLayout := by decide +kernel
  have hstyles : Setup.ofDefaults s.settings.current.logging (some (.named "_styles")) (flag? .null) =
      .error .layoutStyles := by decide +kernel
  exact ⟨congrArg Prod.fst (apply_configure_of_error hplain), congrArg Prod.fst (apply_configure_of_error hstyles),
    by decide +kernel⟩

end Turn

end Readiness
