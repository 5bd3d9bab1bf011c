import Readiness.Schema.Issue

/-!
# Decoding results

Either a decoded thing or the issues of its document. Two results combine by collecting the issues of both, so
this is an applicative and not a monad: no check depends on an earlier one having passed.
-/
namespace Readiness.Schema

inductive Decoded (α : Type)
  | accepted (a : α)
  | rejected (issues : List Issue)
deriving Repr, DecidableEq

namespace Decoded

variable {α β : Type}

def reject (f : Fault) : Decoded α := .rejected [⟨[], f⟩]

protected def map (f : α → β) : Decoded α → Decoded β
  | .accepted a => .accepted (f a)
  | .rejected is => .rejected is

protected def seq : Decoded (α → β) → Decoded α → Decoded β
  | .accepted f, .accepted a => .accepted (f a)
  | .accepted _, .rejected is => .rejected is
  | .rejected is, .accepted _ => .rejected is
  | .rejected is, .rejected js => .rejected (is ++ js)

instance : Applicative Decoded where
  pure := .accepted
  map := Decoded.map
  seq f x := Decoded.seq f (x ())

/-- The issues, seen from one level further out. -/
def within (s : Step) : Decoded α → Decoded α
  | .accepted a => .accepted a
  | .rejected is => .rejected (is.map fun i => { i with path := s :: i.path })

/-- A further check on something decoded. -/
def andCheck (d : Decoded α) (check : α → Decoded β) : Decoded β :=
  match d with
  | .accepted a => check a
  | .rejected is => .rejected is

/-- As the result for a whole document. -/
def toExcept (model : String) : Decoded α → Except Rejection α
  | .accepted a => .ok a
  | .rejected is => .error ⟨model, is⟩

@[simp] theorem map_accepted (f : α → β) (a : α) : f <$> Decoded.accepted a = .accepted (f a) := rfl

@[simp] theorem map_rejected (f : α → β) (is : List Issue) :
    f <$> (Decoded.rejected is : Decoded α) = .rejected is := rfl

@[simp] theorem seq_accepted (f : α → β) (a : α) :
    Decoded.accepted f <*> Decoded.accepted a = .accepted (f a) := rfl

@[simp] theorem seq_rejected (f : α → β) (is : List Issue) :
    Decoded.accepted f <*> (Decoded.rejected is : Decoded α) = .rejected is := rfl

@[simp] theorem rejected_seq_accepted (is : List Issue) (a : α) :
    (Decoded.rejected is : Decoded (α → β)) <*> Decoded.accepted a = .rejected is := rfl

@[simp] theorem rejected_seq_rejected (is js : List Issue) :
    (Decoded.rejected is : Decoded (α → β)) <*> (Decoded.rejected js : Decoded α)
      = .rejected (is ++ js) := rfl

end Decoded

end Readiness.Schema
