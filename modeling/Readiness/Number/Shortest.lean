/-!
# Shortest decimals

The decimal with the fewest digits that reads back as a given double. A positive double is `m · 2 ^ q`; the reals
that round to it form an interval, closed at both ends exactly when `m` is even. Grids of one, two, … digits are
tried in turn, and on each only the two neighbours of the value can lie in the interval. Of two hits on one grid
the nearer is taken, at a tie the even one.
-/
namespace Readiness.Number

/-- The number `digits · 10 ^ exponent`. -/
structure Decimal where
  digits : Nat
  exponent : Int
deriving DecidableEq, Repr

namespace Shortest

/-- The quotient `a · 2 ^ b / 10 ^ k` as numerator and denominator. -/
def scaled (a : Nat) (b k : Int) : Nat × Nat :=
  (a * .pow 2 b.toNat * .pow 10 (-k).toNat, .pow 2 (-b).toNat * .pow 10 k.toNat)

/-- The least `n` with `x < 10 ^ n`, looked for below `fuel`. -/
def digitCount : Nat → Nat → Nat
  | 0, _ => 0
  | fuel + 1, x => if x = 0 then 0 else digitCount fuel (x / 10) + 1

/-- The number of leading zeros after the point of `num / den < 1`, counted up to `fuel`. -/
def leadingZeros : Nat → Nat → Nat → Nat
  | 0, _, _ => 0
  | fuel + 1, num, den => if den ≤ num * 10 then 0 else leadingZeros fuel (num * 10) den + 1

/-- The power of ten of the first digit of `m · 2 ^ q`. -/
def leadingPower (m : Nat) (q : Int) : Int :=
  let (num, den) := scaled m q 0
  if den ≤ num then (digitCount 400 (num / den) : Int) - 1
  else -((leadingZeros 400 num den : Int) + 1)

/-- The interval of a double, in quarters of the unit `2 ^ q`. Below a power of two the doubles lie twice as
close, except at the bottom of the range. -/
structure Interval where
  low : Nat
  high : Nat
  closed : Bool

def interval (m : Nat) (q : Int) : Interval :=
  ⟨4 * m - (if m = .pow 2 52 ∧ -1074 < q then 1 else 2), 4 * m + 2, m % 2 = 0⟩

/-- Whether `d · 10 ^ k` lies in the interval. -/
def Interval.has (i : Interval) (q : Int) (d : Nat) (k : Int) : Bool :=
  let (lowNum, lowDen) := scaled i.low (q - 2) k
  let (highNum, highDen) := scaled i.high (q - 2) k
  if i.closed then lowNum ≤ d * lowDen && d * highDen ≤ highNum
  else lowNum < d * lowDen && d * highDen < highNum

/-- The hit on the grid of multiples of `10 ^ k`, if there is one. -/
def onGrid (m : Nat) (q k : Int) : Option Nat :=
  let (num, den) := scaled m q k
  let below := num / den
  let i := interval m q
  match i.has q below k && below != 0, i.has q (below + 1) k with
  | true, true =>
    let twice := 2 * num
    let middle := (2 * below + 1) * den
    some (if twice < middle ∨ (twice = middle ∧ below % 2 = 0) then below else below + 1)
  | true, false => some below
  | false, true => some (below + 1)
  | false, false => none

/-- Try grids of ever more digits; seventeen always suffice. -/
def search (m : Nat) (q top : Int) : Nat → Nat → Decimal
  | 0, _ => ⟨m, 0⟩
  | fuel + 1, n =>
    match onGrid m q (top - n) with
    | some d => ⟨d, top - n⟩
    | none => search m q top fuel (n + 1)

/-- Move trailing zeros of the digits into the exponent. -/
def trim : Nat → Decimal → Decimal
  | 0, d => d
  | fuel + 1, d =>
    if d.digits % 10 = 0 ∧ d.digits ≠ 0 then trim fuel ⟨d.digits / 10, d.exponent + 1⟩ else d

/-- The shortest decimal of `m · 2 ^ q`, for a positive double. -/
def ofBinary (m : Nat) (q : Int) : Decimal := trim 400 (search m q (leadingPower m q) 18 0)

end Shortest

/-- A double taken apart: its class, and for a finite one the sign, `m` and `q`. -/
inductive Parts
  | nan
  | infinite (negative : Bool)
  | finite (negative : Bool) (m : Nat) (q : Int)
deriving DecidableEq, Repr

/-- Read the fields of the 64-bit pattern. -/
def Parts.ofBits (bits : Nat) : Parts :=
  let negative := .pow 2 63 ≤ bits
  let exponent : Nat := bits / .pow 2 52 % .pow 2 11
  let fraction := bits % .pow 2 52
  if exponent = 2047 then if fraction = 0 then .infinite negative else .nan
  else if exponent = 0 then .finite negative fraction (-1074)
  else .finite negative (fraction + .pow 2 52) ((exponent : Int) - 1075)

def Parts.ofFloat (x : Float) : Parts := .ofBits x.toBits.toNat

example : Shortest.ofBinary (2 ^ 52) (-52) = ⟨1, 0⟩ := by decide +kernel
example : Shortest.ofBinary 1 (-1074) = ⟨5, -324⟩ := by decide +kernel

end Readiness.Number
