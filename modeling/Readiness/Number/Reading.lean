import Readiness.Text.Blank
import Readiness.Text.Digit
import Readiness.Text.Lowercase

/-!
# Reading numbers

Lenient readers for the texts that a number may be given by: white space around it, a sign, and the digits of any
script.
-/
namespace Readiness.Number

open Readiness.Text

/-- A sign in front, taken off; `true` for minus. -/
def takeSign : List CodePoint → Bool × List CodePoint
  | [] => (false, [])
  | c :: cs => if c = '-' then (true, cs) else if c = '+' then (false, cs) else (false, c :: cs)

def applySign (negative : Bool) (n : Nat) : Int := if negative then -(n : Int) else n

/-- The mark in front of the digits of a base, if it has one: `0x`, `0o` or `0b`. -/
def baseMark? (base : Nat) : Option Char :=
  if base = 16 then some 'x' else if base = 8 then some 'o' else if base = 2 then some 'b' else none

/-- Take off the mark of the base, of either case. -/
def takeBaseMark (base : Nat) : List CodePoint → List CodePoint
  | z :: c :: cs =>
    if z = '0' ∧ (baseMark? base).any (fun m => c.isIn fun ch => ch.toLower = m) then cs else z :: c :: cs
  | cs => cs

/-- A decimal digit of any script as the ASCII digit of its value. -/
def plainDigit (c : CodePoint) : CodePoint :=
  match c.char?.bind digitValue? with
  | some d => d.digitChar
  | none => c

/-- The value of a digit of a base. -/
def digitOf? (base : Nat) (c : CodePoint) : Option Nat := (c.char?.bind letterDigit?).filter (· < base)

/-- A text as a whole number: its sign, the values of its digits, and what cannot be part of it. -/
structure WholeText where
  negative : Bool
  digits : List Nat
  rest : List CodePoint

def WholeText.ofPoints (base : Nat) (cs : List CodePoint) : WholeText :=
  let (negative, body) := takeSign ((strip (·.isIn isWhiteSpace) cs).map plainDigit)
  let body := takeBaseMark base body
  let run := body.takeWhile fun c => (digitOf? base c).isSome
  ⟨negative, run.filterMap (digitOf? base), body.drop run.length⟩

def WholeText.value? (base : Nat) (t : WholeText) : Option Int :=
  if t.digits.isEmpty ∨ !t.rest.isEmpty then none else some (applySign t.negative (ofDigits base t.digits))

/-- Read a whole number. Underscores are not accepted. -/
def readInt? (base : Nat) (t : Text) : Option Int := (WholeText.ofPoints base t.points).value? base

/-- The least whole number that is past all doubles: it lies halfway between the largest one and `2 ^ 1024`. -/
def pastDoubles : Nat := .pow 2 1024 - .pow 2 970

def infinity : Float := Float.ofScientific 1 false 400

/-- The decimal `digits · 10 ^ exponent` as the nearest double. Exponents far outside the range are decided
without computing the power. -/
def nearestFloat (digits : List Nat) (exponent : Int) : Float :=
  let significant := digits.dropWhile (· = 0)
  let magnitude := exponent + significant.length
  if significant.isEmpty then 0
  else if 400 < magnitude then infinity
  else if magnitude < -400 then 0
  else Float.ofScientific (ofDigits 10 significant) (exponent < 0) exponent.natAbs

def notANumber : Float := infinity - infinity

/-- The values of the digits among some characters. -/
def digitsOf (cs : List CodePoint) : List Nat := cs.filterMap (digitOf? 10)

def isDigit (c : CodePoint) : Bool := (digitOf? 10 c).isSome

/-- The number of a run of digits, none or more. -/
def ofRun (cs : List CodePoint) : Nat := ofDigits 10 (digitsOf cs)

/-- The exponent after an `e`: a sign and at least one digit. Nothing at all is the exponent zero. -/
def readExponent? : List CodePoint → Option Int
  | [] => some 0
  | c :: cs =>
    let (negative, body) := takeSign cs
    if (c = 'e' ∨ c = 'E') ∧ !body.isEmpty ∧ body.all isDigit then some (applySign negative (ofRun body))
    else none

/-- The digits after a point, if there is one, and what follows. -/
def takeFraction : List CodePoint → List CodePoint × List CodePoint
  | [] => ([], [])
  | c :: cs => if c = '.' then (cs.takeWhile isDigit, cs.dropWhile isDigit) else ([], c :: cs)

/-- A decimal without sign: digits, an optional fraction, an optional exponent; a digit on one side of the point. -/
def readDecimal? (cs : List CodePoint) : Option Float :=
  let whole := cs.takeWhile isDigit
  let (fraction, rest) := takeFraction (cs.dropWhile isDigit)
  let digits := whole ++ fraction
  if digits.isEmpty then none
  else (readExponent? rest).map fun e => nearestFloat (digitsOf digits) (e - fraction.length)

/-- Read a floating-point number, its words in any case. -/
def readFloat? (t : Text) : Option Float :=
  let (negative, body) := takeSign (strip (·.isIn isWhiteSpace) t.points)
  let word := lower ⟨body⟩
  let value :=
    if word = "inf" ∨ word = "infinity" then some infinity
    else if word = "nan" then some notANumber
    else readDecimal? body
  value.map fun x => if negative then -x else x

end Readiness.Number
