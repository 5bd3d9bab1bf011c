import Readiness.Text.Utf8
import Readiness.Value.Display

/-!
# Values as JSON

Two ways out of the dynamic values. `jsonText` writes a value on one line, in ASCII; what JSON has no form for is
written as its text, and doubles without digits as words. `portable` turns a value into one that JSON can hold: times become texts, bytes the text that
they encode, numbers without digits null, and keys texts.
-/
namespace Readiness

open Calendar Number Text

/-- Why a value cannot be written: bytes that encode no text, keys that have no encoding or too many digits, a kind of
things that is no data, a container that holds itself, or too many levels. -/
inductive Unwritable
  | undecodable (f : Utf8Fault)
  | unencodable (key : Text)
  | tooManyDigits
  | unknownKind (kind : String)
  | circular
  | tooDeep
deriving DecidableEq

namespace Unwritable

/-- The words on whole numbers that are too long to be written. -/
def tooManyDigitsMessage : String :=
  s!"Exceeds the limit ({mostDigits} digits) for integer string conversion; " ++
    "use sys.set_int_max_str_digits() to increase the limit"

/-- The words on the first run of halves of characters in a key. -/
def unencodableMessage (key : Text) : String :=
  let position := (key.points.takeWhile fun c => !c.isHalf).length
  Text.unencodableMessage position ((key.points.drop position).takeWhile CodePoint.isHalf)

def message : Unwritable → String
  | .undecodable f => f.message
  | .unencodable key => unencodableMessage key
  | .tooManyDigits => tooManyDigitsMessage
  | .unknownKind kind => s!"Unable to serialize unknown type: <class '{kind}'>"
  | .circular => "Circular reference detected (id repeated)"
  | .tooDeep => "Circular reference detected (depth exceeded)"

end Unwritable

/-- Why a line cannot be written: a whole number that has too many digits, a container that holds itself, or a key
that is of none of the kinds that have a text. -/
inductive Unprintable
  | tooManyDigits
  | circular
  | key (kind : String)
deriving DecidableEq

def Unprintable.message : Unprintable → String
  | .tooManyDigits => Unwritable.tooManyDigitsMessage
  | .circular => "Circular reference detected"
  | .key kind => s!"keys must be str, int, float, bool or None, not {kind}"

namespace Value

/-- What has no text has too many digits. -/
def printed {α : Type} : Option α → Except Unprintable α
  | some a => .ok a
  | none => .error .tooManyDigits

/-- The text of a key. -/
def jsonKey : Value → Except Unprintable Text
  | .null => .ok "null"
  | .bool b => .ok (if b then "true" else "false")
  | .int n => (printed (displayInt? n)).map Text.ofString
  | .float x => .ok (FloatStyle.json.text x)
  | .str s => .ok s
  | v => .error (.key v.qualifiedKind)

mutual
/-- The JSON text of a value, `link` being that of the containers of the group that it belongs to. -/
def jsonIn (link : Nat → Except Unprintable String) : Value → Except Unprintable String
  | .null => .ok "null"
  | .bool b => .ok (if b then "true" else "false")
  | .int n => printed (displayInt? n)
  | .float x => .ok (FloatStyle.json.text x)
  | .str s => .ok (jsonQuoted s)
  | .list xs => (jsonItems link xs).map (enclose "[" "]")
  | .tuple xs => (jsonItems link xs).map (enclose "[" "]")
  | .map es => (jsonEntries link es).map (enclose "\x7b" "\x7d")
  | .bytes bs => (printed (Value.bytes bs).text?).map jsonQuoted
  | .date d => (printed (Value.date d).text?).map jsonQuoted
  | .datetime t => (printed (Value.datetime t).text?).map jsonQuoted
  | .set xs => (printed (Value.set xs).text?).map jsonQuoted
  | .handle _ display => .ok (jsonQuoted display)
  | .loop cells i => walkFrom (jsonCells cells) (fun _ => .error .circular) i
  | .link i => link i

def jsonItems (link : Nat → Except Unprintable String) : List Value → Except Unprintable (List String)
  | [] => .ok []
  | x :: xs => do
    let s ← jsonIn link x
    let ss ← jsonItems link xs
    pure (s :: ss)

def jsonEntries (link : Nat → Except Unprintable String) : Entries → Except Unprintable (List String)
  | [] => .ok []
  | (k, v) :: es => do
    let name ← jsonKey k
    let s ← jsonIn link v
    let ss ← jsonEntries link es
    pure ((jsonQuoted name ++ ": " ++ s) :: ss)

def jsonCells : List Value → List ((Nat → Except Unprintable String) → Except Unprintable String)
  | [] => []
  | v :: vs => (fun link => jsonIn link v) :: jsonCells vs
end

/-- `dumps`: the JSON text of a value. -/
def jsonText (v : Value) : Except Unprintable String := jsonIn (fun _ => .error .circular) v

def isFinite (x : Float) : Bool :=
  match Parts.ofFloat x with
  | .finite _ _ _ => true
  | _ => false

/-- The text that bytes encode. -/
def textOfBytes (bs : List UInt8) : Except Unwritable Text :=
  match decodeUtf8 bs with
  | .ok s => .ok s
  | .error f => .error (.undecodable f.coarse)

def portableKey : Value → Except Unwritable Text
  | .null => .ok "None"
  | .bool b => .ok (if b then "true" else "false")
  | .float x => .ok (if isFinite x then (Value.float x).text else "None")
  | .str s => if s.toString?.isSome then .ok s else .error (.unencodable s)
  | .bytes bs => textOfBytes bs
  | .datetime t => .ok (t.iso .wire)
  | .handle kind _ => .error (.unknownKind kind)
  | v =>
    match v.text? with
    | some s => .ok s
    | none => .error .tooManyDigits

/-- The most levels that are written. -/
def mostLevels : Nat := 255

/-- What a value on a level becomes, given what becomes of the containers of its group. -/
abbrev Writing := Nat → Except Unwritable Value

mutual
def portableIn (link : Nat → Writing) (level : Nat) (v : Value) : Except Unwritable Value :=
  if mostLevels < level then .error .tooDeep
  else match v with
    | .null => .ok .null
    | .bool b => .ok (.bool b)
    | .int n => .ok (.int n)
    | .float x => .ok (if isFinite x then .float x else .null)
    | .str s => .ok (.str s)
    | .bytes bs => (textOfBytes bs).map .str
    | .date d => .ok (.str d.iso)
    | .datetime t => .ok (.str (t.iso .wire))
    | .list xs => (portableItems link (level + 1) xs).map .list
    | .tuple xs => (portableItems link (level + 1) xs).map .list
    | .set xs => (portableItems link (level + 1) xs).map .list
    | .map es => (portableEntries link (level + 1) es).map fun found => .map (Entries.ofList found)
    | .handle kind _ => .error (.unknownKind kind)
    | .loop cells i => walkFrom (portableCells cells) (fun _ _ => .error .circular) i level
    | .link i => link i level

def portableItems (link : Nat → Writing) (level : Nat) : List Value → Except Unwritable (List Value)
  | [] => .ok []
  | x :: xs => do
    let y ← portableIn link level x
    let ys ← portableItems link level xs
    pure (y :: ys)

/-- Entries whose keys become one text are one entry, as `Entries.ofList` has it. -/
def portableEntries (link : Nat → Writing) (level : Nat) : Entries → Except Unwritable Entries
  | [] => .ok []
  | (k, v) :: es => do
    let name ← portableKey k
    let w ← portableIn link level v
    let found ← portableEntries link level es
    pure ((.str name, w) :: found)

def portableCells : List Value → List ((Nat → Writing) → Writing)
  | [] => []
  | v :: vs => (fun link level => portableIn link level v) :: portableCells vs
end

/-- A value as JSON can hold it, the first level being its own. -/
def portable (v : Value) : Except Unwritable Value := portableIn (fun _ _ => .error .circular) 1 v

end Value

/-- Fields as JSON can hold them. Halves of characters in their names are replaced. -/
def Fields.portable (fs : Fields) : Except Unwritable Value := do
  let es ← fs.mapM fun f => do pure (Value.str f.1.lossy, ← f.2.portable)
  pure (.map (Entries.ofList es))

end Readiness
