import Readiness.Defaults
import Readiness.Log.Format
import Readiness.Log.Journal

/-!
# Logging sessions

The logging of a program as it runs: a threshold, and the sinks that records go to. At first that is a journal; once
logging is configured, it is the console alone, in one of the two formats.
-/
namespace Readiness.Log

open Calendar

/-! ## Levels by name -/

/-- The numbers of the levels that have names. -/
def Level.ofName? (name : Text) : Option Level :=
  ([("CRITICAL", 50), ("FATAL", 50), ("ERROR", 40), ("WARNING", 30), ("WARN", 30), ("INFO", 20),
    ("DEBUG", 10), ("NOTSET", 0)] : List (Text × Level)).lookup name

/-- A level as it is asked for. -/
inductive LevelChoice
  | named (s : Text)
  | number (n : Int)
deriving DecidableEq, Repr

/-- What shares its name space with the levels and is none. -/
inductive Namesake
  /-- The layout of plain records. -/
  | plainLayout
  /-- The styles of layouts. -/
  | layoutStyles
deriving DecidableEq, Repr

namespace Namesake

def ofName? (name : Text) : Option Namesake :=
  ([("BASIC_FORMAT", .plainLayout), ("_STYLES", .layoutStyles)] : List (Text × Namesake)).lookup name

def plainLayoutText : String := "%(levelname)s:%(name)s:%(message)s"

/-- Every style with the mark of its fields, its class, and the layout of plain records in it. -/
def styles : List (String × String × String) := [
  ("%", "PercentStyle", plainLayoutText),
  ("\x7b", "StrFormatStyle", "\x7blevelname\x7d:\x7bname\x7d:\x7bmessage\x7d"),
  ("$", "StringTemplateStyle", "$\x7blevelname\x7d:$\x7bname\x7d:$\x7bmessage\x7d")]

def stylesText : String :=
  let one (style : String × String × String) : String :=
    s!"{Text.displayed style.1}: (<class 'logging.{style.2.1}'>, {Text.displayed style.2.2})"
  "\x7b" ++ ", ".intercalate (styles.map one) ++ "\x7d"

/-- A text counts as the name of a level, a table does not even that. -/
def message : Namesake → String
  | .plainLayout => s!"Unknown level: {Text.displayed plainLayoutText}"
  | .layoutStyles => s!"Level not an integer or a valid string: {stylesText}"

end Namesake

/-- Names are read in any case. What is no name counts as INFO, only the name of something else is refused. -/
def LevelChoice.resolve : LevelChoice → Except Namesake Level
  | .number n => .ok n
  | .named s =>
    let name := Text.upper s
    match Namesake.ofName? name with
    | some other => .error other
    | none => .ok ((Level.ofName? name).getD Level.info)

/-! ## What logging is set up to -/

structure Setup where
  threshold : Level
  format : Format
deriving DecidableEq, Repr

/-- A flag as it is given: null leaves it open, and otherwise it is set if the value is something. -/
def flag? : Value → Option Bool
  | .null => none
  | v => some v.isSome

/-- What is asked for, and otherwise the defaults. -/
def Setup.ofDefaults (d : LoggingDefaults) (level : Option LevelChoice) (json : Option Bool) :
    Except Namesake Setup := do
  let threshold ← (level.getD (.named d.level)).resolve
  pure ⟨threshold, if json.getD d.jsonOutput then .structured else .human⟩

/-- Where records go. -/
inductive Sink
  | journal
  | console (f : Format)
deriving DecidableEq, Repr

/-! ## Sessions -/

structure Session where
  now : DateTime
  settings : Settings := {}
  journal : Journal := {}
  threshold : Level := Level.debug
  sinks : List Sink := [.journal]
  /-- What was written to the console. -/
  console : Text := ""

namespace Session

/-- Records at the level zero or below never pass. -/
def enabled (s : Session) (l : Level) : Bool := 0 < l && s.threshold ≤ l

/-- Hand a record to one sink. One that cannot be written leaves the console as it is, and nobody is told unless it is
for want of an end. The console takes every character: what its encoding has no form for is not looked at. -/
def deliver (e : Entry) (s : Session) : Sink → Except Uncopied Unit × Session
  | .journal => (.ok (), { s with journal := s.journal.write e.record })
  | .console f =>
    match f.line s.now s.journal.context e with
    | .ok line => (.ok (), { s with console := s.console ++ line ++ "\n" })
    | .error (.context .endless) => (.error .endless, s)
    | .error _ => (.ok (), s)

/-- Hand a record to sinks one after another, as far as none of them raises. -/
def deliverAll (e : Entry) : List Sink → Session → Except Uncopied Unit × Session
  | [], s => (.ok (), s)
  | k :: sinks, s =>
    match s.deliver e k with
    | (.ok (), s) => deliverAll e sinks s
    | (.error f, s) => (.error f, s)

/-- Hand on a record that has passed. -/
def emit (e : Entry) (s : Session) : Except Uncopied Unit × Session := deliverAll e s.sinks s

theorem exists_deliver (e : Entry) (s : Session) (k : Sink) : ∃ records console,
    (s.deliver e k).2 = { s with journal := { s.journal with records := records }, console := console } := by
  cases k with
  | journal => exact ⟨_, _, rfl⟩
  | console f =>
    unfold deliver
    dsimp only
    split <;> exact ⟨_, _, rfl⟩

theorem exists_deliverAll (e : Entry) (sinks : List Sink) (s : Session) : ∃ records console,
    (s.deliverAll e sinks).2 = { s with journal := { s.journal with records := records }, console := console } := by
  induction sinks generalizing s with
  | nil => exact ⟨_, _, rfl⟩
  | cons k sinks ih =>
    obtain ⟨records, console, hfirst⟩ := exists_deliver e s k
    unfold deliverAll
    cases hk : s.deliver e k with
    | mk result after =>
      have hafter : after = { s with journal := { s.journal with records := records }, console := console } := by
        rw [← hfirst, hk]
      cases result with
      | ok =>
        obtain ⟨_, _, hrest⟩ := ih after
        exact ⟨_, _, hrest.trans (by rw [hafter])⟩
      | error f => exact ⟨_, _, hafter⟩

/-- Handing on a record leaves its marks in the journal and on the console only. -/
theorem exists_emit (e : Entry) (s : Session) : ∃ records console,
    (s.emit e).2 = { s with journal := { s.journal with records := records }, console := console } :=
  exists_deliverAll e s.sinks s

/-- `ContextLogger.log`: log a message, if its level passes. The context is copied before there is a record. -/
def log (l : Logger) (level : Level) (message : Text) (passed : Entries) (origin : Origin)
    (s : Session) : Except Uncopied Unit × Session :=
  if s.enabled level then
    match s.journal.context.fields with
    | .ok shown => s.emit ⟨l.record shown level message passed, origin, none⟩
    | .error f => (.error f, s)
  else (.ok (), s)

theorem exists_log (l : Logger) (level : Level) (message : Text) (passed : Entries) (origin : Origin) (s : Session) :
    ∃ records console, (s.log l level message passed origin).2 =
      { s with journal := { s.journal with records := records }, console := console } := by
  unfold log
  split
  · split
    · exact exists_emit _ s
    · exact ⟨_, _, rfl⟩
  · exact ⟨_, _, rfl⟩

/-- `log_checkpoint`. A checkpoint takes single fields from the context and copies nothing. -/
def checkpoint (logger name : Text) (given : Value) (origin : Origin) (s : Session) : Except Uncopied Unit × Session :=
  if s.enabled Level.info then
    s.emit ⟨Checkpoint.record s.now s.journal.context logger name given, origin, none⟩
  else (.ok (), s)

theorem exists_checkpoint (logger name : Text) (given : Value) (origin : Origin) (s : Session) :
    ∃ records console, (s.checkpoint logger name given origin).2 =
      { s with journal := { s.journal with records := records }, console := console } := by
  unfold checkpoint
  split
  · exact exists_emit _ s
  · exact ⟨_, _, rfl⟩

/-- Open a block. -/
def enter (l : Layer) (s : Session) : Except NotMapping Session := do
  let c ← s.journal.context.enter l
  pure { s with journal := { s.journal with contexts := c :: s.journal.contexts } }

/-- Close the innermost block. -/
def leave (s : Session) : Session := { s with journal := s.journal.leave }

/-- Take out the sinks that are there, one after another, and put in a console. -/
def redirect (f : Format) (s : Session) : Session :=
  { s with sinks := s.sinks.foldl List.erase s.sinks ++ [.console f] }

theorem foldl_erase_self (sinks : List Sink) : sinks.foldl List.erase sinks = [] := by
  induction sinks with
  | nil => rfl
  | cons k sinks ih => rw [List.foldl_cons, List.erase_cons_head, ih]

theorem redirect_eq (f : Format) (s : Session) : s.redirect f = { s with sinks := [.console f] } := by
  unfold redirect
  rw [foldl_erase_self]
  rfl

/-- `configure_logging`: set up the console. What is left open comes from the defaults, which are read in any case. A
level that is refused leaves everything else as it is. -/
def configure (level : Option LevelChoice) (json : Option Bool) (s : Session) :
    Except Namesake Unit × Session :=
  let (found, settings) := s.settings.use fun d => Setup.ofDefaults d.logging level json
  let after := { s with settings := settings }
  match found with
  | .ok setup => (.ok (), { after with threshold := setup.threshold }.redirect setup.format)
  | .error other => (.error other, after)

theorem configure_of_ok {level : Option LevelChoice} {json : Option Bool} {s : Session} {setup : Setup}
    (h : Setup.ofDefaults s.settings.current.logging level json = .ok setup) :
    s.configure level json =
      (.ok (), { s with
        settings := s.settings.read, threshold := setup.threshold, sinks := [.console setup.format] }) := by
  simp [configure, Settings.use, h, redirect_eq]

theorem configure_of_error {level : Option LevelChoice} {json : Option Bool} {s : Session} {other : Namesake}
    (h : Setup.ofDefaults s.settings.current.logging level json = .error other) :
    s.configure level json = (.error other, { s with settings := s.settings.read }) := by
  simp [configure, Settings.use, h]

end Session

end Readiness.Log
