import Readiness.Calendar.DateTime
import Readiness.Text.Digit
import Readiness.Yaml.Fault

/-!
# Timestamps

Dates, and dates with a time, as plain scalars write them: `2026-10-18`, `2026-10-18 8:01:00.5 +2`. A time without an
offset stays without one.
-/
namespace Readiness.Yaml

open Calendar Text

inductive Zone
  | utc
  | offset (negative : Bool) (hours minutes : Nat)
deriving DecidableEq, Repr

/-- The time of a timestamp, digit by digit as far as its fraction goes. -/
structure ClockText where
  hour : Nat
  minute : Nat
  second : Nat
  fraction : List Char
  zone : Option Zone

structure TimestampText where
  year : Nat
  month : Nat
  day : Nat
  clock : Option ClockText

namespace TimestampText

def number (ds : List Char) : Nat := ofDigits 10 (ds.map fun c => (asciiDigit? c).getD 0)

/-- One or two digits. -/
def oneOrTwo? : List Char → Option (Nat × List Char)
  | a :: b :: cs =>
    if a.isDigit then if b.isDigit then some (number [a, b], cs) else some (number [a], b :: cs)
    else none
  | [a] => if a.isDigit then some (number [a], []) else none
  | [] => none

def two? : List Char → Option (Nat × List Char)
  | a :: b :: cs => if a.isDigit && b.isDigit then some (number [a, b], cs) else none
  | _ => none

def four? : List Char → Option (Nat × List Char)
  | a :: b :: c :: d :: cs =>
    if [a, b, c, d].all Char.isDigit then some (number [a, b, c, d], cs) else none
  | _ => none

/-- The rest after a character that must stand there. -/
def after? (c : Char) : List Char → Option (List Char)
  | d :: cs => if d = c then some cs else none
  | [] => none

def isBlank (c : Char) : Bool := c == ' ' || c == '\t'

/-- The zone at the end, with blanks in front of it. -/
def zone? (cs : List Char) : Option (Option Zone) :=
  match cs, cs.dropWhile isBlank with
  | [], _ => some none
  | _, ['Z'] => some (some .utc)
  | _, sign :: rest =>
    if sign = '+' ∨ sign = '-' then do
      let (hours, rest) ← oneOrTwo? rest
      let minutes ← match rest with
        | [] => some 0
        | _ => do
          let (minutes, rest) ← two? (← after? ':' rest)
          if rest.isEmpty then some minutes else none
      pure (some (.offset (sign == '-') hours minutes))
    else none
  | _, [] => none

/-- The digits after a point, if there is one. -/
def fraction : List Char → List Char × List Char
  | '.' :: cs => (cs.takeWhile Char.isDigit, cs.dropWhile Char.isDigit)
  | cs => ([], cs)

def clock? (cs : List Char) : Option ClockText := do
  let (hour, cs) ← oneOrTwo? cs
  let (minute, cs) ← two? (← after? ':' cs)
  let (second, cs) ← two? (← after? ':' cs)
  let (digits, cs) := fraction cs
  pure ⟨hour, minute, second, digits, ← zone? cs⟩

/-- What separates date and time: a `T`, or blanks. -/
def separated? : List Char → Option (List Char)
  | [] => none
  | c :: cs =>
    if c = 'T' ∨ c = 't' then some cs
    else if isBlank c then some (cs.dropWhile isBlank)
    else none

def read? (cs : List Char) : Option TimestampText := do
  let (year, cs) ← four? cs
  let (month, cs) ← oneOrTwo? (← after? '-' cs)
  let (day, cs) ← oneOrTwo? (← after? '-' cs)
  match cs with
  | [] => pure ⟨year, month, day, none⟩
  | cs => pure ⟨year, month, day, some (← clock? (← separated? cs))⟩

/-- The date, if the calendar has it. -/
def date (t : TimestampText) : Except ScalarFault Date :=
  match Date.ofParts? t.year t.month t.day with
  | some d => .ok d
  | none =>
    if t.year = 0 then .error (.year t.year)
    else if t.month = 0 ∨ 12 < t.month then .error .month
    else .error .day

/-- Six digits of the fraction; further ones are dropped. -/
def microseconds (digits : List Char) : Nat :=
  let kept := digits.take 6
  number (kept ++ List.replicate (6 - kept.length) '0')

def Zone.offset? (z : Zone) : Except ScalarFault Offset :=
  match z with
  | .utc => .ok .utc
  | .offset negative hours minutes =>
    let m : Int := 60 * hours + minutes
    let signed := if negative then -m else m
    match Offset.ofMinutes? signed with
    | some o => .ok o
    | none => .error (.offset (60 * signed))

def time (c : ClockText) : Except ScalarFault Time :=
  match Time.ofParts? c.hour c.minute c.second (microseconds c.fraction) with
  | some t => .ok t
  | none =>
    if 24 ≤ c.hour then .error .hour
    else if 60 ≤ c.minute then .error .minute
    else .error .second

/-- The value of a timestamp. Its offset is looked at first. -/
def value (t : TimestampText) : Except ScalarFault Value :=
  match t.clock with
  | none => t.date.map .date
  | some c => do
    let offset ← match c.zone with
      | none => pure none
      | some z => (Zone.offset? z).map some
    let date ← t.date
    let time ← time c
    pure (.datetime ⟨date, time, offset⟩)

end TimestampText

end Readiness.Yaml
