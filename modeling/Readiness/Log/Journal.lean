import Readiness.Log.Checkpoint

/-!
# Journals

A journal is where work logs to: the contexts of the open blocks, the innermost first, and the records so far.
-/
namespace Readiness.Log

open Calendar

structure Journal where
  contexts : List Context := []
  records : List Record := []

namespace Journal

/-- The context in force. -/
def context (j : Journal) : Context := j.contexts.headD {}

def write (r : Record) (j : Journal) : Journal := { j with records := j.records ++ [r] }

/-- Log a message in a context that can be copied. -/
def log (l : Logger) (level : Level) (message : Text) (passed : Entries) (j : Journal) : Journal :=
  j.write (l.record j.context.entries level message passed)

def checkpoint (now : DateTime) (name : Text) (given : Fields) (j : Journal) : Journal :=
  j.write (Checkpoint.record now j.context Checkpoint.logger name given.toValue)

/-- Open a block that sets no extra entries. -/
def enter (l : Layer) (j : Journal) : Journal :=
  { j with contexts := j.context.inside l :: j.contexts }

/-- Close the innermost block. -/
def leave (j : Journal) : Journal := { j with contexts := j.contexts.tail }

end Journal

end Readiness.Log
