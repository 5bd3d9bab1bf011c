/-!
# Tables of code points

How properties of characters are written down: sets as ranges, and maps of letters as runs that shift by one distance.
-/
namespace Readiness.Text

/-- Whether a number lies in one of some ranges, both ends included. -/
def inRanges (n : Nat) (ranges : List (Nat × Nat)) : Bool :=
  ranges.any fun r => r.1 ≤ n && n ≤ r.2

/-- Letters `first`, `first + step`, …, `last`, each of which has its partner `shift` further on. -/
structure CaseRun where
  first : Nat
  last : Nat
  step : Nat
  shift : Int

def CaseRun.covers (r : CaseRun) (n : Nat) : Bool :=
  r.first ≤ n && n ≤ r.last && (n - r.first) % r.step == 0

/-- The partner of a letter by a table, or the letter itself. -/
def shiftBy (runs : List CaseRun) (c : Char) : Char :=
  match runs.find? (·.covers c.toNat) with
  | some r => Char.ofNat (c.toNat + r.shift).toNat
  | none => c

end Readiness.Text
