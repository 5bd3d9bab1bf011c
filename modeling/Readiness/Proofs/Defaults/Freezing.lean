import Readiness.Log.Session
import Readiness.Proofs.Manifest.Loading

/-!
# Defaults between resets

The defaults are computed at the first read and kept until they are reset. Several operations read them, each of them for
a purpose of its own, so that any of them may be the first. In a run of *turns* the environment that counts is the one
that was in force at the first read since the last reset (`FirstRead`), which is read off the turns alone. Every turn
does to the settings what `Turn.settle` says (the step, `settings_apply`), and a run therefore ends with the defaults of
that environment (`cached_of_firstRead`), which the next reader sees (`frozen_until_reset`).
-/
namespace Readiness

open Log

/-! ## Turns -/

/-- What a program does, as far as it has to do with its defaults and its logging. -/
inductive Turn
  | setVar (v : EnvVar) (value : Option Text)
  | reset
  | defaults
  | sequenceType
  | parse (es : Entries) (source : Text) (index : Int)
  | configure (level : Option LevelChoice) (json : Value)
  | log (l : Logger) (level : Level) (message : Text) (passed : Entries) (origin : Origin)
  | checkpoint (logger name : Text) (given : Value) (origin : Origin)
  | enter (l : Layer)
  | leave
  | clock (now : Calendar.DateTime)

namespace Turn

/-- What a turn shows of the defaults, or of logging as it was set up by them. -/
inductive Answer
  | nothing
  | defaults (d : Defaults)
  | sequenceType (g : GroupVersionKind)
  | parsed (found : Except Manifest.Failure Manifest.Object)
  /-- The threshold and the sinks after logging was configured. -/
  | configured (made : Except Namesake (Level × List Sink))

/-- A call of a logger, and a block that is entered, may fail; then the failure is caught. -/
def apply : Turn → Session → Answer × Session
  | .setVar v value, s => (.nothing, { s with settings := s.settings.setVar v value })
  | .reset, s => (.nothing, { s with settings := s.settings.reset })
  | .defaults, s =>
    let (d, settings) := s.settings.use id
    (.defaults d, { s with settings := settings })
  | .sequenceType, s =>
    let (g, settings) := s.settings.sequenceType
    (.sequenceType g, { s with settings := settings })
  | .parse es source index, s =>
    let (found, settings) := Manifest.parse s.settings es source index
    (.parsed found, { s with settings := settings })
  | .configure level json, s =>
    let (made, after) := s.configure level (flag? json)
    (.configured (made.map fun _ => (after.threshold, after.sinks)), after)
  | .log l level message passed origin, s => (.nothing, (s.log l level message passed origin).2)
  | .checkpoint logger name given origin, s => (.nothing, (s.checkpoint logger name given origin).2)
  | .enter l, s =>
    match s.enter l with
    | .ok inner => (.nothing, inner)
    | .error _ => (.nothing, s)
  | .leave, s => (.nothing, s.leave)
  | .clock now, s => (.nothing, { s with now := now })

def run (turns : List Turn) (s : Session) : Session := turns.foldl (fun s t => (t.apply s).2) s

/-- Whether a turn reads the defaults. A document without a kind is refused before they are looked at. -/
def reads : Turn → Bool
  | .defaults | .sequenceType | .configure .. => true
  | .parse es .. => (Manifest.kind? es).isSome
  | _ => false

/-- What a turn shows where the defaults are `d`. -/
def answer (d : Defaults) : Turn → Answer
  | .defaults => .defaults d
  | .sequenceType => .sequenceType d.resource.groupVersionKind
  | .parse es source index => .parsed (Manifest.parseObject d.resource es source index)
  | .configure level json => .configured <|
    (Setup.ofDefaults d.logging level (flag? json)).map fun made => (made.threshold, [.console made.format])
  | _ => .nothing

/-- The environment after a turn. -/
def environment (e : Environment) : Turn → Environment
  | .setVar v value => e.set v value
  | _ => e

/-- `e` was in force at the first read since the last reset, in turns that began with `start` in force. -/
def FirstRead (start : Environment) (turns : List Turn) (e : Environment) : Prop :=
  ∃ before quiet first later, turns = before ++ (quiet ++ first :: later) ∧
    (before = [] ∨ ∃ earlier, before = earlier ++ [.reset]) ∧
    (∀ t ∈ quiet, t ≠ .reset ∧ ¬ t.reads) ∧ first.reads ∧ (∀ t ∈ later, t ≠ .reset) ∧
    e = (before ++ quiet).foldl environment start

/-! ## The step -/

/-- The settings after a turn. -/
def settle (x : Settings) : Turn → Settings
  | .setVar v value => x.setVar v value
  | .reset => x.reset
  | t => if t.reads then x.read else x

variable {t : Turn} {turns : List Turn} {x : Settings}

theorem settle_of_reads (ht : t.reads) : t.settle x = x.read := by
  cases t with
  | parse es source index => exact if_pos ht
  | setVar | reset | log | checkpoint | enter | leave | clock => simp [reads] at ht
  | defaults | sequenceType | configure => rfl

theorem environment_settle (t : Turn) (x : Settings) : (t.settle x).environment = t.environment x.environment := by
  cases t with
  | parse es source index =>
    show (if (parse es source index).reads then x.read else x).environment = x.environment
    split <;> rfl
  | _ => rfl

/-- Only a reset forgets the defaults, and only a read computes them. -/
theorem cached_settle_of_quiet (hreset : t ≠ .reset) (hreads : ¬ t.reads) : (t.settle x).cached = x.cached := by
  cases t with
  | parse es source index => exact congrArg Settings.cached (if_neg hreads)
  | reset => exact absurd rfl hreset
  | defaults | sequenceType | configure => exact absurd rfl hreads
  | setVar | log | checkpoint | enter | leave | clock => rfl

theorem cached_settle_of_some {d : Defaults} (hreset : t ≠ .reset) (hx : x.cached = some d) :
    (t.settle x).cached = some d := by
  by_cases hreads : t.reads
  · rw [settle_of_reads hreads]
    simp [Settings.read, Settings.current, hx]
  · rw [cached_settle_of_quiet hreset hreads, hx]

theorem apply_configure_of_ok {level : Option LevelChoice} {json : Value} {s : Session} {setup : Setup}
    (h : Setup.ofDefaults s.settings.current.logging level (flag? json) = .ok setup) :
    (Turn.configure level json).apply s =
      (.configured (.ok (setup.threshold, [.console setup.format])), { s with
        settings := s.settings.read, threshold := setup.threshold, sinks := [.console setup.format] }) := by
  simp only [apply, Session.configure_of_ok h]
  rfl

theorem apply_configure_of_error {level : Option LevelChoice} {json : Value} {s : Session} {other : Namesake}
    (h : Setup.ofDefaults s.settings.current.logging level (flag? json) = .error other) :
    (Turn.configure level json).apply s =
      (.configured (.error other), { s with settings := s.settings.read }) := by
  simp only [apply, Session.configure_of_error h]
  rfl

/-- The step: what a turn does to the settings does not depend on anything else. -/
theorem settings_apply (t : Turn) (s : Session) : (t.apply s).2.settings = t.settle s.settings := by
  cases t with
  | setVar | reset | defaults | sequenceType | leave | clock => rfl
  | parse es source index =>
    show (Manifest.parse s.settings es source index).2 = if (Manifest.kind? es).isSome then s.settings.read else _
    unfold Manifest.parse
    cases Manifest.kind? es <;> rfl
  | configure level json =>
    cases hsetup : Setup.ofDefaults s.settings.current.logging level (flag? json) with
    | ok setup => rw [apply_configure_of_ok hsetup]; rfl
    | error other => rw [apply_configure_of_error hsetup]; rfl
  | log l level message passed origin =>
    obtain ⟨_, _, hlog⟩ := s.exists_log l level message passed origin
    show (s.log l level message passed origin).2.settings = s.settings
    rw [hlog]
  | checkpoint logger name given origin =>
    obtain ⟨_, _, hcheckpoint⟩ := s.exists_checkpoint logger name given origin
    show (s.checkpoint logger name given origin).2.settings = s.settings
    rw [hcheckpoint]
  | enter l =>
    simp only [apply, Session.enter]
    cases s.journal.context.enter l <;> rfl

/-- A turn sees the defaults in force, and of the settings nothing else. -/
theorem answer_apply (t : Turn) (s : Session) : (t.apply s).1 = t.answer s.settings.current := by
  cases t with
  | setVar | reset | defaults | sequenceType | log | checkpoint | leave | clock => rfl
  | parse es source index => exact congrArg Answer.parsed (Manifest.parse_fst s.settings es source index)
  | configure level json =>
    cases hsetup : Setup.ofDefaults s.settings.current.logging level (flag? json) with
    | ok setup => simp only [apply_configure_of_ok hsetup, answer, hsetup, Except.map]
    | error other => simp only [apply_configure_of_error hsetup, answer, hsetup, Except.map]
  | enter l =>
    show (match s.enter l with
      | .ok inner => (Answer.nothing, inner)
      | .error _ => (Answer.nothing, s)).1 = Answer.nothing
    cases s.enter l <;> rfl

/-! ## Runs -/

theorem settings_run (turns : List Turn) (s : Session) : (run turns s).settings = turns.foldl settle s.settings := by
  induction turns generalizing s with
  | nil => rfl
  | cons t turns ih =>
    show (run turns (t.apply s).2).settings = turns.foldl settle (t.settle s.settings)
    rw [ih, settings_apply]

theorem environment_foldl (turns : List Turn) (x : Settings) :
    (turns.foldl settle x).environment = turns.foldl environment x.environment := by
  induction turns generalizing x with
  | nil => rfl
  | cons t turns ih => rw [List.foldl_cons, ih, environment_settle, List.foldl_cons]

theorem cached_foldl_of_quiet (h : ∀ t ∈ turns, t ≠ .reset ∧ ¬ t.reads) : (turns.foldl settle x).cached = x.cached := by
  induction turns generalizing x with
  | nil => rfl
  | cons t turns ih =>
    obtain ⟨hreset, hreads⟩ := h t List.mem_cons_self
    rw [List.foldl_cons, ih fun t ht => h t (List.mem_cons_of_mem _ ht), cached_settle_of_quiet hreset hreads]

theorem cached_foldl_of_some {d : Defaults} (h : ∀ t ∈ turns, t ≠ .reset) (hx : x.cached = some d) :
    (turns.foldl settle x).cached = some d := by
  induction turns generalizing x with
  | nil => exact hx
  | cons t turns ih =>
    exact ih (fun t ht => h t (List.mem_cons_of_mem _ ht)) (cached_settle_of_some (h t List.mem_cons_self) hx)

/-- A run ends with the defaults of the environment at the first read since the last reset. -/
theorem cached_of_firstRead {e : Environment} (hx : x.cached = none) (h : FirstRead x.environment turns e) :
    (turns.foldl settle x).cached = some (.ofEnvironment e) := by
  obtain ⟨before, quiet, first, later, rfl, hbefore, hquiet, hfirst, hlater, rfl⟩ := h
  have hnone : (before.foldl settle x).cached = none := by
    rcases hbefore with rfl | ⟨earlier, rfl⟩
    · exact hx
    · rw [List.foldl_append]
      rfl
  have hstill : ((before ++ quiet).foldl settle x).cached = none := by
    rw [List.foldl_append, cached_foldl_of_quiet hquiet, hnone]
  have hread : (((before ++ quiet).foldl settle x).read).cached =
      some (.ofEnvironment ((before ++ quiet).foldl environment x.environment)) := by
    unfold Settings.read Settings.current
    rw [hstill, environment_foldl]
    rfl
  rw [← List.append_assoc, List.foldl_append, List.foldl_cons, settle_of_reads hfirst]
  exact cached_foldl_of_some hlater hread

/-- Everything since the last reset. -/
theorem exists_since_reset (turns : List Turn) :
    ∃ before since, turns = before ++ since ∧ (before = [] ∨ ∃ earlier, before = earlier ++ [.reset]) ∧
      ∀ t ∈ since, t ≠ .reset := by
  induction turns with
  | nil => exact ⟨[], [], rfl, Or.inl rfl, by simp⟩
  | cons t turns ih =>
    obtain ⟨before, since, rfl, hbefore, hsince⟩ := ih
    rcases hbefore with rfl | ⟨earlier, rfl⟩
    · by_cases ht : t = .reset
      · exact ⟨[.reset], since, by rw [ht]; rfl, Or.inr ⟨[], rfl⟩, hsince⟩
      · exact ⟨[], t :: since, rfl, Or.inl rfl, List.forall_mem_cons.2 ⟨ht, hsince⟩⟩
    · exact ⟨t :: (earlier ++ [.reset]), since, rfl, Or.inr ⟨t :: earlier, rfl⟩, hsince⟩

theorem ne_reset_of_reads (ht : t.reads) : t ≠ .reset := by
  rintro rfl
  simp [reads] at ht

/-- Where a turn reads, there is a first read since the last reset, if only this one. -/
theorem exists_firstRead (start : Environment) (past : List Turn) (ht : t.reads) :
    ∃ e, FirstRead start (past ++ [t]) e := by
  obtain ⟨before, since, rfl, hbefore, hsince⟩ := exists_since_reset past
  have hsome : ((since ++ [t]).find? reads).isSome := by
    rw [List.find?_isSome]
    exact ⟨t, by simp, ht⟩
  obtain ⟨first, hfind⟩ := Option.isSome_iff_exists.1 hsome
  obtain ⟨hfirst, quiet, later, hsplit, hquiet⟩ := List.find?_eq_some_iff_append.1 hfind
  have hall : ∀ u ∈ quiet ++ first :: later, u ≠ .reset := by
    rw [← hsplit]
    intro u hu
    rcases List.mem_append.1 hu with hu | hu
    · exact hsince u hu
    · rw [List.mem_singleton.1 hu]
      exact ne_reset_of_reads ht
  refine ⟨_, before, quiet, first, later, by rw [List.append_assoc, hsplit], hbefore, ?_, hfirst, ?_, rfl⟩
  · exact fun u hu => ⟨hall u (List.mem_append_left _ hu), by simpa using hquiet u hu⟩
  · exact fun u hu => hall u (List.mem_append_right _ (List.mem_cons_of_mem _ hu))

/-- What a reader sees: the defaults that it leaves behind. -/
theorem current_of_firstRead {s : Session} {past : List Turn} {e : Environment} (hfresh : s.settings.cached = none)
    (ht : t.reads) (h : FirstRead s.settings.environment (past ++ [t]) e) :
    (run past s).settings.current = .ofEnvironment e := by
  have hcached := cached_of_firstRead hfresh h
  rw [List.foldl_append, List.foldl_cons, List.foldl_nil, settle_of_reads ht, ← settings_run] at hcached
  exact Option.some.inj hcached

/-- **The defaults are frozen between resets.** After any turns since the start of a program, a turn that reads the
defaults, whichever it is, shows what it shows where the defaults are those of the environment that was in force at the
first read since the last reset, whichever turn that was, and however the environment has changed since. There always is
such a first read. -/
theorem frozen_until_reset {s : Session} (hfresh : s.settings.cached = none) (past : List Turn) {t : Turn}
    (ht : t.reads) :
    (∃ e, FirstRead s.settings.environment (past ++ [t]) e) ∧
    ∀ e, FirstRead s.settings.environment (past ++ [t]) e →
      (t.apply (run past s)).1 = t.answer (.ofEnvironment e) := by
  refine ⟨exists_firstRead _ past ht, fun e he => ?_⟩
  rw [answer_apply, current_of_firstRead hfresh ht he]

/-- After a reset it is a document that reads the defaults first, and logging goes by the level of that time. -/
theorem frozen_until_reset_by_document :
    let s : Session := { now := default }
    let past : List Turn := [.setVar .logLevel (some "debug"), .sequenceType, .reset, .parse [] "a.yaml" 0,
      .setVar .logLevel (some "error"), .parse [(.str "kind", .str "Sequence")] "a.yaml" 1,
      .setVar .logLevel (some "info")]
    let t : Turn := .configure none .null
    let e : Environment := (Environment.empty.set .logLevel (some "debug")).set .logLevel (some "error")
    s.settings.cached = none ∧ t.reads ∧ FirstRead s.settings.environment (past ++ [t]) e ∧
      (t.apply (run past s)).1 = .configured (.ok (40, [.console .human])) := by
  intro s past t e
  have hfirst : FirstRead s.settings.environment (past ++ [t]) e := by
    refine ⟨[.setVar .logLevel (some "debug"), .sequenceType, .reset],
      [.parse [] "a.yaml" 0, .setVar .logLevel (some "error")], .parse [(.str "kind", .str "Sequence")] "a.yaml" 1,
      [.setVar .logLevel (some "info"), t], rfl, Or.inr ⟨[_, _], rfl⟩, ?_, by decide, ?_, rfl⟩
    · simp [reads, Manifest.kind?, Entries.get?]
    · simp [t]
  have hsetup : Setup.ofDefaults (Defaults.ofEnvironment e).logging none (flag? .null) = .ok ⟨40, .human⟩ := by
    decide +kernel
  refine ⟨rfl, rfl, hfirst, ((frozen_until_reset rfl past (t := t) rfl).2 e hfirst).trans ?_⟩
  simp only [t, answer, hsetup, Except.map]

end Turn

end Readiness
