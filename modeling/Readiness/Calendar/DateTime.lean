import Readiness.Calendar.Date

/-!
# Points in time

A date with a time of day in microseconds, and the offset from universal time if it is known.
-/
namespace Readiness.Calendar

structure Time where
  hour : Fin 24
  minute : Fin 60
  second : Fin 60
  microsecond : Fin 1000000
deriving DecidableEq

def Time.midnight : Time := ⟨0, 0, 0, 0⟩

instance : Inhabited Time := ⟨.midnight⟩

def Time.ofParts? (h m s micro : Nat) : Option Time :=
  if hh : h < 24 then if hm : m < 60 then if hs : s < 60 then if hu : micro < 1000000 then
    some ⟨⟨h, hh⟩, ⟨m, hm⟩, ⟨s, hs⟩, ⟨micro, hu⟩⟩ else none else none else none else none

/-- Minutes east of universal time, less than a day. -/
structure Offset where
  minutes : Int
  bounded : minutes.natAbs < 1440
deriving DecidableEq

def Offset.utc : Offset := ⟨0, by decide⟩

def Offset.ofMinutes? (m : Int) : Option Offset :=
  if h : m.natAbs < 1440 then some ⟨m, h⟩ else none

structure DateTime where
  date : Date
  time : Time
  offset : Option Offset
deriving DecidableEq, Inhabited

namespace DateTime

/-- `transition_time`: a point in time without the fraction of its second. -/
def truncated (t : DateTime) : DateTime := { t with time := { t.time with microsecond := 0 } }

/-- Microseconds from 1970 on the clock at its place. -/
def localMicroseconds (t : DateTime) : Int :=
  let seconds := t.date.dayNumber * 86400 + t.time.hour.val * 3600 + t.time.minute.val * 60
    + t.time.second.val
  seconds * 1000000 + t.time.microsecond.val

/-- The whole second that a point in time falls into, with its offset. -/
theorem truncated_eq_iff {t u : DateTime} : t.truncated = u ↔ u.date = t.date ∧ u.offset = t.offset ∧
    u.time.microsecond = 0 ∧ u.localMicroseconds ≤ t.localMicroseconds ∧
    t.localMicroseconds < u.localMicroseconds + 1000000 := by
  obtain ⟨date, ⟨hour, minute, second, micro⟩, offset⟩ := t
  constructor
  · rintro rfl
    refine ⟨rfl, rfl, rfl, ?_, ?_⟩ <;> simp only [truncated, localMicroseconds] <;> omega
  · obtain ⟨date', ⟨hour', minute', second', micro'⟩, offset'⟩ := u
    rintro ⟨rfl, rfl, rfl, hle, hlt⟩
    simp only [localMicroseconds] at hle hlt
    -- In one day there is one time for each number of seconds.
    obtain ⟨hhour, hminute, hsecond⟩ : hour.val = hour'.val ∧ minute.val = minute'.val ∧ second.val = second'.val := by
      omega
    simp [truncated, Fin.ext hhour, Fin.ext hminute, Fin.ext hsecond]

/-- The same point in time: equal instants where both offsets are known, equal clocks where neither is. -/
def sameInstant (a b : DateTime) : Bool :=
  match a.offset, b.offset with
  | some x, some y =>
    a.localMicroseconds - x.minutes * 60000000 == b.localMicroseconds - y.minutes * 60000000
  | none, none => a.localMicroseconds == b.localMicroseconds
  | _, _ => false

/-- Why a count of seconds names no point in time. -/
inductive UnixFault
  | yearZero
  | outOfRange
deriving DecidableEq, Repr

/-- The years that a count of seconds may name, the year zero included. -/
def unixRange (seconds : Int) : Bool := -62167219200 ≤ seconds && seconds ≤ 253402300799

/-- Seconds from 1970 in universal time, with microseconds to add. -/
def ofUnix (seconds : Int) (microseconds : Nat) : Except UnixFault DateTime :=
  let total := seconds + microseconds / 1000000
  if unixRange total then
    let inDay := (total % 86400).toNat
    match Date.ofDayNumber? (total / 86400),
        Time.ofParts? (inDay / 3600) (inDay / 60 % 60) (inDay % 60) (microseconds % 1000000) with
    | some d, some t => .ok ⟨d, t, some .utc⟩
    | _, _ => .error .yearZero
  else .error .outOfRange

/-- Milliseconds from 1970 in universal time, with microseconds to add. -/
def ofUnixMillis (millis : Int) (microseconds : Nat) : Except UnixFault DateTime :=
  ofUnix (millis / 1000) ((millis % 1000).toNat * 1000 + microseconds)

/-- The largest count that is in seconds; what goes past it, on either side of 1970, is in milliseconds. -/
def mostSeconds : Nat := 20000000000

def ofUnixCount (count : Int) : Except UnixFault DateTime :=
  if count.natAbs ≤ mostSeconds then ofUnix count 0 else ofUnixMillis count 0

end DateTime

end Readiness.Calendar
