import Readiness.Log.Context

/-!
# Log records

A record is a message at a level, with extra data. Where its data comes from several sides, the context wins over
what the caller passed, and the component of the logger stands only where nobody else names one.
-/
namespace Readiness.Log

/-- The higher, the more urgent. -/
abbrev Level := Int

namespace Level

def debug : Level := 10
def info : Level := 20
def warning : Level := 30

def name (l : Level) : String :=
  match ([(0, "NOTSET"), (10, "DEBUG"), (20, "INFO"), (30, "WARNING"), (40, "ERROR"),
    (50, "CRITICAL")] : List (Int × String)).lookup l with
  | some s => s
  | none => s!"Level {l}"

end Level

/-- The part of the program that a logger belongs to. -/
inductive Component
  | aggregator
  | service
  | loader
deriving DecidableEq, Repr

def Component.text : Component → String
  | .aggregator => "aggregator"
  | .service => "service"
  | .loader => "loader"

def Component.all : List Component := [.aggregator, .service, .loader]

def Component.ofText? (s : String) : Option Component := all.find? fun c => c.text = s

/-- `ContextLogger`: a named logger, and the part of the program that it is for. -/
structure Logger where
  name : Text
  component : Option Component := none
deriving DecidableEq, Repr

structure Record where
  level : Level
  logger : Text
  message : Text
  extra : Value
deriving DecidableEq

/-- `ContextLogger.process`: the data of a record that a logger makes where the context says `shown`. -/
def Logger.data (l : Logger) (shown passed : Entries) : Entries :=
  let overlaid := passed.merge shown
  match l.component with
  | some k => if overlaid.has "component" then overlaid else overlaid.put (.str "component") (.str k.text)
  | none => overlaid

def Logger.record (l : Logger) (shown : Entries) (level : Level) (message : Text) (passed : Entries) :
    Record :=
  ⟨level, l.name, message, .map (l.data shown passed)⟩

end Readiness.Log
