import Readiness.Value.Basic

/-!
# Copies

Data is copied part by part, and the copy equals what it was made of. What a value may lack is a copy at all. Values may
be nested to any depth, as long as they have an end: how deep calls may go in an interpreter is not modelled.
-/
namespace Readiness

/-- Why a value has no copy: there is a handle in it, or a container that holds itself, which is copied without an end. -/
inductive Uncopied
  | handle (kind : String)
  | endless
deriving DecidableEq, Repr

def Uncopied.message : Uncopied → String
  | .handle kind => s!"cannot pickle '{kind}' object"
  | .endless => "maximum recursion depth exceeded"

namespace Value

mutual
/-- Copy a value, `link` being what comes of the containers of the group that it belongs to. -/
def copyIn (link : Nat → Except Uncopied Unit) : Value → Except Uncopied Unit
  | .handle kind _ => .error (.handle kind)
  | .list xs | .tuple xs | .set xs => copyItems link xs
  | .map es => copyEntries link es
  | .loop cells i => walkFrom (copyCells cells) (fun _ => .error .endless) i
  | .link i => link i
  | _ => .ok ()

def copyItems (link : Nat → Except Uncopied Unit) : List Value → Except Uncopied Unit
  | [] => .ok ()
  | x :: xs => do
    copyIn link x
    copyItems link xs

def copyEntries (link : Nat → Except Uncopied Unit) : Entries → Except Uncopied Unit
  | [] => .ok ()
  | (k, v) :: es => do
    copyIn link k
    copyIn link v
    copyEntries link es

def copyCells : List Value → List ((Nat → Except Uncopied Unit) → Except Uncopied Unit)
  | [] => []
  | v :: vs => (fun link => copyIn link v) :: copyCells vs
end

/-- What `asdict` makes of one value: the copy, which is the value again, or the reason why there is none. -/
def copied (v : Value) : Except Uncopied Value := (copyIn (fun _ => .error .endless) v).map fun _ => v

end Value

end Readiness
