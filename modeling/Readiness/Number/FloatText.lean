import Readiness.Number.Shortest

/-!
# Text of floating-point numbers

How a double is written: where positional notation ends, and what stands for the values that have no digits.
-/
namespace Readiness.Number

/-- Decisions of a written form. A number whose first digit stands at `10 ^ e` is written positionally for
`positionalFrom ≤ e < positionalBelow`, otherwise with an exponent of a sign and at least two digits. -/
structure FloatStyle where
  positionalFrom : Int
  positionalBelow : Int
  nan : String
  infinity : String

/-- Numbers in messages: positional from 0.0001 up to, but not including, ten quadrillion. -/
def FloatStyle.displayed : FloatStyle := ⟨-4, 16, "nan", "inf"⟩

/-- Numbers in JSON lines differ only in the words for the values that are not numbers. -/
def FloatStyle.json : FloatStyle := { FloatStyle.displayed with nan := "NaN", infinity := "Infinity" }

def natDigits (n : Nat) : List Char := Nat.toDigits 10 n

/-- At least two digits. -/
def exponentDigits (n : Nat) : List Char := if n < 10 then '0' :: natDigits n else natDigits n

/-- Digits with the point after the first `point` of them; a whole number keeps `.0`. -/
def positional (digits : List Char) (point : Int) : List Char :=
  if point ≤ 0 then '0' :: '.' :: List.replicate (-point).toNat '0' ++ digits
  else if digits.length ≤ point.toNat then
    digits ++ List.replicate (point.toNat - digits.length) '0' ++ ['.', '0']
  else digits.take point.toNat ++ '.' :: digits.drop point.toNat

/-- The point after the first digit, and an exponent. -/
def exponential (digits : List Char) (e : Int) : List Char :=
  let mantissa := match digits with
    | [] => []
    | [d] => [d]
    | d :: ds => d :: '.' :: ds
  mantissa ++ 'e' :: (if e < 0 then '-' else '+') :: exponentDigits e.natAbs

def FloatStyle.decimal (style : FloatStyle) (d : Decimal) : List Char :=
  let digits := natDigits d.digits
  let e := d.exponent + digits.length - 1
  if style.positionalFrom ≤ e ∧ e < style.positionalBelow then positional digits (e + 1)
  else exponential digits e

def FloatStyle.parts (style : FloatStyle) : Parts → List Char
  | .nan => style.nan.toList
  | .infinite negative => (if negative then ['-'] else []) ++ style.infinity.toList
  | .finite negative m q =>
    (if negative then ['-'] else [])
      ++ (if m = 0 then ['0', '.', '0'] else style.decimal (Shortest.ofBinary m q))

/-- The text of a double. -/
def FloatStyle.text (style : FloatStyle) (x : Float) : String := String.ofList (style.parts (.ofFloat x))

example : FloatStyle.displayed.decimal ⟨1, 22⟩ = "1e+22".toList := by decide
example : FloatStyle.displayed.decimal ⟨15, -1⟩ = "1.5".toList := by decide
example : FloatStyle.displayed.decimal ⟨1, -7⟩ = "1e-07".toList := by decide

end Readiness.Number
