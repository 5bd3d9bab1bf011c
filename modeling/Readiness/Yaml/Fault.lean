import Readiness.Text.Quoted
import Readiness.Value.Display

/-!
# Faults of YAML text

A text breaks the rules of YAML, or it keeps them and one of its scalars has no value. Of the first sort no more is
said; the second sort tells what is wrong with the scalar.
-/
namespace Readiness.Yaml

/-- Why a scalar has no value. -/
inductive ScalarFault
  | codePoint (n : Nat)
  | emptyNumber
  | notWhole (base : Nat) (text : Text)
  | tooManyDigits (count : Nat)
  | notReal (text : Text)
  /-- A real number in base sixty has more places than a double has room for. -/
  | tooManyPlaces
  | notTruth (text : Text)
  | notTime
  /-- A mapping that stands for a text is taken for a timestamp. -/
  | mappingForTime
  /-- A mapping stands for a text that is itself. -/
  | endless
  | year (n : Nat)
  | month
  | day
  | hour
  | minute
  | second
  | offset (seconds : Int)
deriving DecidableEq, Repr

/-- The words on something that goes on without an end. -/
def endlessMessage : String := "maximum recursion depth exceeded"

namespace ScalarFault

/-- The displayed form of a text, cut after two hundred characters. -/
def shown (t : Text) : String := String.ofList ((Text.Displayed.encode t.points).take 200)

def message : ScalarFault → String
  | .codePoint n =>
    if n < .pow 2 31 then "chr() arg not in range(0x110000)"
    else "Python int too large to convert to C int"
  | .emptyNumber => "string index out of range"
  | .notWhole base s => s!"invalid literal for int() with base {base}: {shown s}"
  | .tooManyDigits n =>
    s!"Exceeds the limit ({Text.mostDigits} digits) for integer string conversion: value has {n} digits; " ++
      "use sys.set_int_max_str_digits() to increase the limit"
  | .notReal s => s!"could not convert string to float: {Text.displayed s}"
  | .tooManyPlaces => "int too large to convert to float"
  | .notTruth s => Text.displayed s
  | .notTime => "'NoneType' object has no attribute 'groupdict'"
  | .mappingForTime => "expected string or bytes-like object, got 'list'"
  | .endless => endlessMessage
  | .year n => s!"year {n} is out of range"
  | .month => "month must be in 1..12"
  | .day => "day is out of range for month"
  | .hour => "hour must be in 0..23"
  | .minute => "minute must be in 0..59"
  | .second => "second must be in 0..59"
  | .offset n =>
    "offset must be a timedelta strictly between -timedelta(hours=24) and timedelta(hours=24), " ++
      s!"not {displaySpan n}."

end ScalarFault

inductive Fault
  | malformed
  | scalar (f : ScalarFault)
deriving DecidableEq, Repr

end Readiness.Yaml
