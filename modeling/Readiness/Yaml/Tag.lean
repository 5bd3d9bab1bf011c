import Readiness.Yaml.Timestamp

/-!
# Tags

The types of nodes. A plain scalar without a tag has the type that its text looks like.
-/
namespace Readiness.Yaml

open Text

inductive Tag
  | null
  | bool
  | int
  | float
  | binary
  | timestamp
  | str
  | seq
  | map
  | set
  | omap
  | pairs
  | merge
  | value
  | unknown
deriving DecidableEq, Repr

namespace Tag

/-- What stands in front of the names of the standard types. -/
def space : String := "tag:yaml.org,2002:"

/-- A tag that is spelled out. -/
def ofText (s : String) : Tag :=
  (([("null", .null), ("bool", .bool), ("int", .int), ("float", .float), ("binary", .binary),
    ("timestamp", .timestamp), ("str", .str), ("seq", .seq), ("map", .map), ("set", .set), ("omap", .omap),
    ("pairs", .pairs), ("merge", .merge), ("value", .value)] : List (String × Tag)).find? fun p =>
      s = space ++ p.1).elim .unknown Prod.snd

/-- One line end at the very end of a text does not count for what it looks like. -/
def dropFinalBreak (cs : List Char) : List Char :=
  match cs.reverse with
  | '\n' :: rest => rest.reverse
  | _ => cs

def boolWords : List String :=
  ["yes", "Yes", "YES", "no", "No", "NO", "true", "True", "TRUE", "false", "False", "FALSE",
    "on", "On", "ON", "off", "Off", "OFF"]

def nullWords : List String := ["~", "null", "Null", "NULL"]

/-- Characters that stand for nodes and have no value of their own. -/
def reservedWords : List String := ["!", "&", "*"]

/-- A sign in front goes. -/
def unsigned : List Char → List Char
  | c :: cs => if c = '+' ∨ c = '-' then cs else c :: cs
  | [] => []

/-- A digit, or an underscore between digits. -/
def isDigitOrGap (c : Char) : Bool := c.isDigit || c == '_'

/-- A place of a number in base sixty after the first: one digit, or two that are less than sixty. -/
def isSixtieth : List Char → Bool
  | [a] => a.isDigit
  | [a, b] => a.isDigit && a.toNat ≤ '5'.toNat && b.isDigit
  | _ => false

/-- Whole numbers: binary, octal, hexadecimal, decimal, or in base sixty. -/
def looksWhole (cs : List Char) : Bool :=
  match unsigned cs with
  | '0' :: 'b' :: ds => !ds.isEmpty && ds.all fun c => c == '0' || c == '1' || c == '_'
  | '0' :: 'x' :: ds => !ds.isEmpty && ds.all fun c => isHexDigit c || c == '_'
  | '0' :: ds => ds.all fun c => c == '_' || (c.isDigit && c != '8' && c != '9')
  | body =>
    match cutAt ':' body with
    | (d :: ds) :: parts => d.isDigit && ds.all isDigitOrGap && parts.all isSixtieth
    | _ => false

/-- An exponent has a sign. -/
def looksExponent : List Char → Bool
  | [] => true
  | e :: s :: ds => (e == 'e' || e == 'E') && (s == '+' || s == '-') && !ds.isEmpty && ds.all Char.isDigit
  | _ => false

def infinityWords : List (List Char) := [['i', 'n', 'f'], ['I', 'n', 'f'], ['I', 'N', 'F']]

def nanWords : List (List Char) := [['n', 'a', 'n'], ['N', 'a', 'N'], ['N', 'A', 'N']]

/-- Real numbers have a point. Without a digit in front of it, only infinity has a sign. -/
def looksReal (cs : List Char) : Bool :=
  let body := unsigned cs
  let signed := body.length != cs.length
  let tail := (body.dropWhile (· ≠ '.')).drop 1
  if '.' ∉ body then false
  else match cutAt ':' (body.takeWhile (· ≠ '.')) with
    | [[]] =>
      infinityWords.contains tail
        || (!signed && (nanWords.contains tail
          || ((tail.head?.any Char.isDigit) && looksExponent (tail.dropWhile isDigitOrGap))))
    | [d :: ds] => d.isDigit && ds.all isDigitOrGap && looksExponent (tail.dropWhile isDigitOrGap)
    | (d :: ds) :: parts =>
      d.isDigit && ds.all isDigitOrGap && parts.all isSixtieth && tail.all isDigitOrGap
    | _ => false

/-- Timestamps. A date alone has two digits each for month and day. -/
def looksTimestamp (cs : List Char) : Bool :=
  match TimestampText.read? cs with
  | some t => t.clock.isSome || cs.length == 10
  | none => false

/-- The tag of a scalar by what it looks like. -/
def ofChars (cs : List Char) : Tag :=
  if cs.isEmpty then .null
  else
    let cs := dropFinalBreak cs
    let word := String.ofList cs
    if boolWords.contains word then .bool
    else if looksReal cs then .float
    else if looksWhole cs then .int
    else if word = "<<" then .merge
    else if nullWords.contains word then .null
    else if looksTimestamp cs then .timestamp
    else if word = "=" then .value
    else if reservedWords.contains word then .unknown
    else .str

/-- `resolve`: the tag of a plain scalar by its text. Halves of characters are part of no other type. -/
def ofPlain (t : Text) : Tag := (t.chars?.map ofChars).getD .str

end Tag

end Readiness.Yaml
