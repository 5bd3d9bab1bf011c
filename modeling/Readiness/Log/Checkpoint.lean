import Readiness.Calendar.Iso
import Readiness.Log.Record

/-!
# Checkpoints

Named marks in the log by which a run can be followed. A checkpoint tells its time and whose run it belongs to; it
takes nothing else from the context.
-/
namespace Readiness.Log.Checkpoint

open Calendar

/-- Where checkpoints go unless they are given a logger. -/
def logger : Text := "checkpoint"

/-- A field that stands only if its value is something. -/
def ifSome (name : Text) (v : Value) : Fields := if v.isSome then [(name, v)] else []

def data (now : DateTime) (c : Context) (name : Text) (given : Value) : Fields :=
  ([("checkpoint", .str name), ("timestamp", .str now.stamp)] : Fields)
    ++ ifSome "sequence" (c.named .sequence)
    ++ ifSome "namespace" (c.named .space)
    ++ ifSome "data" given

/-- `log_checkpoint`: the record of a checkpoint. -/
def record (now : DateTime) (c : Context) (logger name : Text) (given : Value) : Record :=
  ⟨.info, logger, "CHECKPOINT: " ++ name, (data now c name given).toValue⟩

end Readiness.Log.Checkpoint
