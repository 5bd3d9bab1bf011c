import Readiness.Calendar.DateTime
import Readiness.Text.Digit
import Readiness.Number.Reading
import Readiness.Number.Shortest

/-!
# Written dates and times

The ISO 8601 form: `2026-10-18T08:01:00.500000+02:00`. The fraction stands only where it is not zero, always
with six digits. Styles differ in what separates date and time, and in the text of the offset zero.
-/
namespace Readiness.Calendar

/-- `n` in decimal, padded with zeros to `width`. -/
def padded (width n : Nat) : String :=
  let ds := Nat.toDigits 10 n
  String.ofList (List.replicate (width - ds.length) '0' ++ ds)

def Date.iso (d : Date) : String := s!"{padded 4 d.year}-{padded 2 d.month}-{padded 2 d.day}"

def Time.clock (t : Time) : String :=
  s!"{padded 2 t.hour.val}:{padded 2 t.minute.val}:{padded 2 t.second.val}"

structure IsoStyle where
  separator : String
  utc : String

/-- For exchange with programs: `T` and `+00:00`. -/
def IsoStyle.plain : IsoStyle := ⟨"T", "+00:00"⟩

/-- For messages: a space and `+00:00`. -/
def IsoStyle.spaced : IsoStyle := ⟨" ", "+00:00"⟩

/-- For manifests: `T` and `Z`. -/
def IsoStyle.wire : IsoStyle := ⟨"T", "Z"⟩

def Offset.text (o : Offset) : String :=
  let m := o.minutes.natAbs
  let sign := if o.minutes < 0 then "-" else "+"
  s!"{sign}{padded 2 (m / 60)}:{padded 2 (m % 60)}"

def DateTime.iso (style : IsoStyle) (t : DateTime) : String :=
  let fraction := if t.time.microsecond.val = 0 then "" else s!".{padded 6 t.time.microsecond.val}"
  let offset := match t.offset with
    | none => ""
    | some o => if o.minutes = 0 then style.utc else o.text
  s!"{t.date.iso}{style.separator}{t.time.clock}{fraction}{offset}"

/-- The stamp of a structured log line: universal time, always with six digits of fraction. -/
def DateTime.stamp (t : DateTime) : String :=
  s!"{t.date.iso}T{t.time.clock}.{padded 6 t.time.microsecond.val}Z"

/-- The stamp of a plain log line: to the second. -/
def DateTime.shortStamp (t : DateTime) : String := s!"{t.date.iso} {t.time.clock}"

namespace Iso

open Readiness.Text

/-- Two digits, as a number. -/
def two? (a b : Char) : Option Nat := do
  let x ← asciiDigit? a
  let y ← asciiDigit? b
  pure (10 * x + y)

/-- A date in front of a text; the year zero passes, as the caller tells it apart. -/
structure Day where
  year : Nat
  month : Nat
  day : Nat

def Day.inCalendar (d : Day) : Bool :=
  1 ≤ d.month && d.month ≤ 12 && 1 ≤ d.day && d.day ≤ daysInMonth d.year d.month

def readDay? : List Char → Option (Day × List Char)
  | a :: b :: c :: d :: '-' :: e :: f :: '-' :: g :: h :: rest => do
    let century ← two? a b
    let year ← two? c d
    let month ← two? e f
    let day ← two? g h
    let found : Day := ⟨100 * century + year, month, day⟩
    if found.inCalendar then some (found, rest) else none
  | _ => none

/-- Digits after the point; those after the sixth are dropped. -/
def readFraction? (cs : List Char) : Option (Nat × List Char) :=
  let ds := cs.takeWhile Char.isDigit
  if ds.isEmpty then none
  else
    let kept := (ds.take 6).map fun c => (asciiDigit? c).getD 0
    some (ofDigits 10 kept * .pow 10 (6 - kept.length), cs.dropWhile Char.isDigit)

/-- Hours and minutes, then optionally seconds, then optionally a fraction. -/
def readTime? : List Char → Option (Time × List Char)
  | a :: b :: ':' :: c :: d :: rest => do
    let hour ← two? a b
    let minute ← two? c d
    match rest with
    | ':' :: e :: f :: more => do
      let second ← two? e f
      match more with
      | p :: digits =>
        if p = '.' ∨ p = ',' then do
          let (micro, left) ← readFraction? digits
          let t ← Time.ofParts? hour minute second micro
          pure (t, left)
        else (Time.ofParts? hour minute second 0).map (·, more)
      | [] => (Time.ofParts? hour minute second 0).map (·, [])
    | ':' :: _ => none
    | _ => (Time.ofParts? hour minute 0 0).map (·, rest)
  | _ => none

/-- The offset at the end of a text: nothing, `Z`, or a sign, hours and minutes, with or without a colon. The
minus sign proper (U+2212) counts as a minus. -/
def readOffset? : List Char → Option (Option Offset)
  | [] => some none
  | sign :: rest =>
    if sign = 'Z' ∨ sign = 'z' then if rest.isEmpty then some (some .utc) else none
    else if sign = '+' ∨ sign = '-' ∨ sign = '\u2212' then
      let parts := match rest with
        | [a, b, ':', c, d] => some (a, b, c, d)
        | [a, b, c, d] => some (a, b, c, d)
        | _ => none
      parts.bind fun (a, b, c, d) => do
        let hours ← two? a b
        let minutes ← two? c d
        if minutes < 60 then
          let m : Int := 60 * hours + minutes
          (Offset.ofMinutes? (if sign = '+' then m else -m)).map some
        else none
    else none

/-- A complete point in time: its day, its time and its offset. -/
def readPoint? (cs : List Char) : Option (Day × Time × Option Offset) := do
  let (day, rest) ← readDay? cs
  match rest with
  | sep :: clock =>
    if sep = 'T' ∨ sep = 't' ∨ sep = ' ' ∨ sep = '_' then do
      let (time, left) ← readTime? clock
      let offset ← readOffset? left
      pure (day, time, offset)
    else none
  | [] => none

end Iso

/-- Read a written point in time. -/
def DateTime.ofIso? (s : String) : Option DateTime := do
  let (day, time, offset) ← Iso.readPoint? s.toList
  let date ← Date.ofParts? day.year day.month day.day
  pure ⟨date, time, offset⟩

/-- Why a text names no point in time. -/
inductive TimeTextFault
  | yearZero
  | unreadable
deriving DecidableEq, Repr

namespace Lenient

open Readiness.Number Readiness.Text

/-- A count of seconds or milliseconds: digits alone are a whole number, and with a point they are a decimal, which
may have an exponent. -/
def readCount? (s : String) : Option (Int ⊕ Float) :=
  let (negative, body) := takeSign (ofString s).points
  if body.isEmpty ∨ body.any (0x80 ≤ ·.val) then none
  else if body.all isDigit then some (.inl (applySign negative (ofRun body)))
  else if (body.dropWhile isDigit).head? = some '.' then
    (readDecimal? body).map fun x => .inr (if negative then -x else x)
  else none

/-- The whole part of a finite double, rounded down. -/
def floor? (x : Float) : Option Int :=
  match Parts.ofFloat x with
  | .finite negative m q =>
    let (num, den) := Shortest.scaled m q 0
    some ((if negative then -(num : Int) else num) / den)
  | _ => none

/-- What a double has above its whole part, in units of which there are `units` to the whole, to the nearest one; a
half counts as one. -/
def unitsAbove (units : Nat) (x : Float) : Nat :=
  ((x - x.floor) * Float.ofScientific units false 0).round.toUInt64.toNat

/-- A count that need not be whole, of milliseconds where its amount is too large for one of seconds. -/
def ofFloat (x : Float) : Except DateTime.UnixFault DateTime :=
  match floor? x with
  | none => .error .outOfRange
  | some whole =>
    if Float.ofScientific DateTime.mostSeconds false 0 < x.abs then DateTime.ofUnixMillis whole (unitsAbove 1000 x)
    else DateTime.ofUnix whole (unitsAbove 1000000 x)

end Lenient

/-- Read a time given as text: written out, a date alone (then it is midnight), or a count from 1970. -/
def DateTime.ofText (s : String) : Except TimeTextFault DateTime :=
  let cs := s.toList
  let build (day : Iso.Day) (time : Time) (offset : Option Offset) : Except TimeTextFault DateTime :=
    match Date.ofParts? day.year day.month day.day with
    | some d => .ok ⟨d, time, offset⟩
    | none => .error .yearZero
  match Iso.readPoint? cs, Iso.readDay? cs, Lenient.readCount? s with
  | some (day, time, offset), _, _ => build day time offset
  | none, some (day, []), _ => build day .midnight none
  | none, _, some count =>
    let found := match count with
      | .inl n => DateTime.ofUnixCount n
      | .inr x => Lenient.ofFloat x
    match found with
    | .ok t => .ok t
    | .error .yearZero => .error .yearZero
    | .error .outOfRange => .error .unreadable
  | none, _, none => .error .unreadable

end Readiness.Calendar
