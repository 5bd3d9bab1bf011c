import Readiness.Number.Reading
import Readiness.Text.Base64
import Readiness.Yaml.Tag

/-!
# Scalar values

The value of a scalar of a given type. A tag may force a text to a type that it does not look like, and then it may
have no value.
-/
namespace Readiness.Yaml.Scalar

open Number Text

/-- A whole number in a base. Decimal ones of too many digits are refused before it is looked at what follows the
digits. -/
def readWhole (base : Nat) (cs : List CodePoint) : Except ScalarFault Int :=
  let t := WholeText.ofPoints base cs
  if base = 10 ∧ mostDigits < t.digits.length then .error (.tooManyDigits t.digits.length)
  else match t.value? base with
    | some n => .ok n
    | none => .error (.notWhole base ⟨cs⟩)

/-- Places in base sixty, the first one the highest. -/
def wholeOfSixtieths (parts : List (List CodePoint)) : Except ScalarFault Int := do
  let ds ← parts.mapM (readWhole 10)
  pure (ds.foldl (fun n d => n * 60 + d) 0)

/-- A leading zero means octal, unless it marks another base. -/
def unsignedWhole (cs : List CodePoint) : Except ScalarFault Int :=
  match cs with
  | [] => .error .emptyNumber
  | z :: ds =>
    if z = '0' then
      if ds.head? = some 'b' then readWhole 2 (ds.drop 1)
      else if ds.head? = some 'x' then readWhole 16 (ds.drop 1)
      else if ds.isEmpty then .ok 0
      else readWhole 8 cs
    else if (':' : CodePoint) ∈ cs then wholeOfSixtieths (cutAt (.ofChar ':') cs)
    else readWhole 10 cs

/-- A number without its underscores; a text that is empty then is none. -/
def withoutGaps (t : Text) : Except ScalarFault Text :=
  let kept := t.points.filter fun c => c ≠ .ofChar '_'
  if kept.isEmpty then .error .emptyNumber else .ok ⟨kept⟩

/-- `construct_yaml_int`: a whole number. -/
def whole (t : Text) : Except ScalarFault Int := do
  let (negative, body) := takeSign (← withoutGaps t).points
  let n ← unsignedWhole body
  pure (if negative then -n else n)

def readReal (cs : List CodePoint) : Except ScalarFault Float :=
  match readFloat? ⟨cs⟩ with
  | some x => .ok x
  | none => .error (.notReal ⟨cs⟩)

/-- The sum of places in base sixty, from the lowest on, which is worth `unit`. -/
def sumSixtieths : List Float → Nat → Float → Float
  | [], _, sum => sum
  | x :: xs, unit, sum => sumSixtieths xs (unit * 60) (sum + x * Float.ofScientific unit false 0)

/-- The most places that a real number has; the 174th power of sixty is more than any double. -/
def mostPlaces : Nat := 174

def unsignedReal (t : Text) : Except ScalarFault Float :=
  if t = ".inf" then .ok infinity
  else if t = ".nan" then .ok notANumber
  else if (':' : CodePoint) ∈ t.points then do
    let xs ← (cutAt (.ofChar ':') t.points).mapM readReal
    if mostPlaces < xs.length then throw ScalarFault.tooManyPlaces
    pure (sumSixtieths xs.reverse 1 0)
  else readReal t.points

/-- The sign of a real number and what follows it, in small letters. -/
def signedReal (t : Text) : Except ScalarFault (Bool × Text) := do
  let (negative, body) := takeSign (lower (← withoutGaps t)).points
  pure (negative, ⟨body⟩)

/-- `construct_yaml_float`: a real number. -/
def real (t : Text) : Except ScalarFault Float := do
  let (negative, body) ← signedReal t
  let x ← unsignedReal body
  pure (if negative then -x else x)

/-- Whether a real number is the `.nan` of YAML, which is the same one wherever it stands. -/
def isNan (t : Text) : Bool :=
  match signedReal t with
  | .ok (_, body) => body = ".nan"
  | .error _ => false

/-- `construct_yaml_bool`: a truth value, its word in any case. -/
def truth (t : Text) : Except ScalarFault Bool :=
  let word := lower t
  match ([("yes", true), ("no", false), ("true", true), ("false", false), ("on", true),
    ("off", false)] : List (Text × Bool)).lookup word with
  | some b => .ok b
  | none => .error (.notTruth word)

/-- `construct_yaml_timestamp`: a date, or a point in time. -/
def timestamp (t : Text) : Except ScalarFault Value :=
  match t.chars?.bind fun cs => TimestampText.read? (Tag.dropFinalBreak cs) with
  | some read => read.value
  | none => .error .notTime

/-- `construct_yaml_binary`: bytes in base 64. -/
def bytes (t : Text) : Except Fault Value :=
  match (t.toString?.filter fun s => s.toList.all fun c => c.toNat < 0x80).bind Base64.decode? with
  | some bs => .ok (.bytes bs)
  | none => .error .malformed

/-- A fault of a scalar as a fault of the text. -/
def lift {α : Type} (f : α → Value) : Except ScalarFault α → Except Fault Value
  | .ok a => .ok (f a)
  | .error e => .error (.scalar e)

/-- The value of a scalar. Types of collections have none. -/
def value (tag : Tag) (t : Text) : Except Fault Value :=
  match tag with
  | .null => .ok .null
  | .bool => lift .bool (truth t)
  | .int => lift .int (whole t)
  | .float => lift .float (real t)
  | .binary => bytes t
  | .timestamp => lift id (timestamp t)
  | .str => .ok (.str t)
  | .seq | .map | .set | .omap | .pairs | .merge | .value | .unknown => .error .malformed

end Readiness.Yaml.Scalar
