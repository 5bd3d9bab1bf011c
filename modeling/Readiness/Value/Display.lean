import Readiness.Calendar.Iso
import Readiness.Number.FloatText
import Readiness.Text.Quoted
import Readiness.Value.Basic

/-!
# Values in messages

Two texts of a value. Its *display* is unambiguous and nests: texts are quoted, points in time are spelled out as
calls with their parts. Its *text* is what stands in the middle of a sentence: texts bare, times in ISO form,
anything else as displayed.
-/
namespace Readiness

open Calendar Number Text

/-- A span of time in days and seconds, leaving out what is zero. -/
def displaySpan (seconds : Int) : String :=
  let days := seconds / 86400
  let rest := seconds % 86400
  let parts := (if days = 0 then [] else [s!"days={days}"])
    ++ (if rest = 0 then [] else [s!"seconds={rest}"])
  let body := if parts.isEmpty then "0" else ", ".intercalate parts
  s!"datetime.timedelta({body})"

namespace Calendar

def Date.display (d : Date) : String := s!"datetime.date({d.year}, {d.month}, {d.day})"

def Offset.display (o : Offset) : String :=
  if o.minutes = 0 then "datetime.timezone.utc"
  else s!"datetime.timezone({displaySpan (o.minutes * 60)})"

/-- Seconds and microseconds stand only where they are needed. -/
def DateTime.display (t : DateTime) : String :=
  let clock := [t.time.hour.val, t.time.minute.val]
    ++ (if t.time.microsecond.val ≠ 0 then [t.time.second.val, t.time.microsecond.val]
      else if t.time.second.val ≠ 0 then [t.time.second.val] else [])
  let numbers := [t.date.year, t.date.month, t.date.day] ++ clock
  let parts := numbers.map toString
    ++ (match t.offset with
      | none => []
      | some o => [s!"tzinfo={o.display}"])
  let body := ", ".intercalate parts
  s!"datetime.datetime({body})"

end Calendar

namespace Value

/-- The decimal digits of a whole number, unless they are too many. -/
def displayInt? (n : Int) : Option String :=
  if (Nat.toDigits 10 n.natAbs).length ≤ mostDigits then some (toString n) else none

/-- `start`, the parts with commas between them, and `stop`. -/
def enclose (start stop : String) (parts : List String) : String :=
  start ++ ", ".intercalate parts ++ stop

/-- A tuple of one shows by its comma that it is one. -/
def encloseTuple : List String → String
  | [x] => enclose "(" ",)" [x]
  | parts => enclose "(" ")" parts

def encloseSet (parts : List String) : String :=
  if parts.isEmpty then "set()" else enclose "\x7b" "\x7d" parts

/-- What is displayed of a container inside itself. -/
def displayAgain : Value → String
  | .map _ => "\x7b...\x7d"
  | _ => "[...]"

mutual
/-- The display of a value, `link` being that of the containers of the group that it belongs to. -/
def displayIn (link : Nat → Option String) : Value → Option String
  | .null => some "None"
  | .bool b => some (if b then "True" else "False")
  | .int n => displayInt? n
  | .float x => some (FloatStyle.displayed.text x)
  | .str s => some (displayed s)
  | .bytes bs => some (String.ofList (Displayed.encodeBytes bs))
  | .date d => some d.display
  | .datetime t => some t.display
  | .list xs => (displayItems link xs).map (enclose "[" "]")
  | .tuple xs => (displayItems link xs).map encloseTuple
  | .set xs => (displayItems link xs).map encloseSet
  | .map es => (displayEntries link es).map (enclose "\x7b" "\x7d")
  | .handle _ display => some display
  | .loop cells i => walkFrom (displayCells cells) (fun j => some (displayAgain (cells.getD j .null))) i
  | .link i => link i

def displayItems (link : Nat → Option String) : List Value → Option (List String)
  | [] => some []
  | x :: xs => do
    let s ← displayIn link x
    let ss ← displayItems link xs
    pure (s :: ss)

def displayEntries (link : Nat → Option String) : Entries → Option (List String)
  | [] => some []
  | (k, v) :: es => do
    let name ← displayIn link k
    let s ← displayIn link v
    let ss ← displayEntries link es
    pure ((name ++ ": " ++ s) :: ss)

def displayCells : List Value → List ((Nat → Option String) → Option String)
  | [] => []
  | v :: vs => (fun link => displayIn link v) :: displayCells vs
end

/-- `repr`: the display of a value, unless there is a whole number in it that has too many digits. -/
def display? (v : Value) : Option String := displayIn (fun _ => none) v

/-- A value that cannot be displayed is called by its kind. -/
def display (v : Value) : String := v.display?.getD s!"<unprintable {v.kindName} object>"

/-- `str`: texts stand for themselves, times in ISO form, and other values as they are displayed. -/
def text? : Value → Option Text
  | .str s => some s
  | .date d => some d.iso
  | .datetime t => some (t.iso .spaced)
  | v => v.display?.map Text.ofString

def text (v : Value) : Text := v.text?.getD v.display

end Value

end Readiness
