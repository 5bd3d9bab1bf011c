import Readiness.Calendar.Iso
import Readiness.Number.Reading
import Readiness.Schema.Decoded
import Readiness.Text.Utf8

/-!
# Decoders

Checks of a dynamic value against a shape. They are lenient where one reading suggests itself: numbers may be
given as text, times as text or as a count from 1970, texts as the bytes that encode them.
-/
namespace Readiness.Schema

open Calendar Number Text

abbrev Decoder (α : Type) := Value → Decoded α

namespace Decoder

variable {α : Type}

/-- What a value gives to a decoder that looks into texts: characters, a text with halves of characters, bytes that
encode no text, or something else. -/
inductive Content
  | characters (s : String)
  | halves
  | undecodable
  | other

def Content.of : Value → Content
  | .str t => t.toString?.elim .halves .characters
  | .bytes bs => (decodeUtf8 bs).toOption.elim .undecodable .characters
  | _ => .other

/-- Any text; it is not looked into. -/
def text : Decoder Text := fun v =>
  match v with
  | .str t => .accepted t
  | v =>
    match Content.of v with
    | .characters s => .accepted s
    | .halves | .undecodable => .reject .undecodableText
    | .other => .reject .notText

/-- Texts that are looked into have no halves of characters. -/
def characters : Decoder String := fun v =>
  match Content.of v with
  | .characters s => .accepted s
  | .halves | .undecodable => .reject .undecodableText
  | .other => .reject .notText

/-- Texts of at least `lo` and at most `hi` characters. -/
abbrev BoundedText (lo hi : Nat) := { s : String // lo ≤ s.length ∧ s.length ≤ hi }

def checkLength (lo hi : Nat) (s : String) : Decoded (BoundedText lo hi) :=
  if h : lo ≤ s.length ∧ s.length ≤ hi then .accepted ⟨s, h⟩
  else if hi < s.length then .reject (.tooLong hi)
  else .reject (.tooShort lo)

def boundedText (lo hi : Nat) : Decoder (BoundedText lo hi) := fun v =>
  (characters v).andCheck (checkLength lo hi)

/-- Null is accepted as nothing. -/
def optional (d : Decoder α) : Decoder (Option α) := fun v =>
  match v with
  | .null => .accepted none
  | v => some <$> d v

/-! ## Whole numbers -/

/-- A minus in front, taken off. -/
def takeMinus : List Char → Bool × List Char
  | '-' :: cs => (true, cs)
  | cs => (false, cs)

/-- Leading zeros go, with the underscores among them, as long as a digit, a point or a minus follows. -/
def dropZeros (cs : List Char) : Option (List Char) :=
  match cs with
  | [] => none
  | c :: _ =>
    if c = '0' then
      let zeros := cs.takeWhile fun d => d = '0' ∨ d = '_'
      match cs.drop zeros.length with
      | [] => zeros.getLast?.map ([·])
      | d :: rest =>
        if d = '.' then zeros.getLast?.map (· :: d :: rest)
        else if d.isDigit ∨ d = '-' then some (d :: rest)
        else none
    else if c.isDigit then some cs
    else none

/-- A fraction of zeros goes. -/
def dropZeroFraction (cs : List Char) : List Char :=
  match cs.dropWhile (· ≠ '.') with
  | _ :: fraction =>
    if !fraction.isEmpty && fraction.all (· = '0') then cs.takeWhile (· ≠ '.') else cs
  | [] => cs

def hasDoubleUnderscore : List Char → Bool
  | '_' :: '_' :: _ => true
  | _ :: cs => hasDoubleUnderscore cs
  | [] => false

/-- Single underscores between characters go. -/
def dropUnderscores (cs : List Char) : List Char :=
  if cs.head? = some '_' ∨ cs.getLast? = some '_' ∨ hasDoubleUnderscore cs then cs
  else cs.filter (· ≠ '_')

/-- Whether the digits that a text starts with are too many, a minus counting as one. A zero in front stands alone and
ends them. -/
def isOverlong (cs : List Char) : Bool :=
  let (negative, body) := takeMinus cs
  let digits := body.takeWhile Char.isDigit
  digits.head? ≠ some '0' && mostDigits < digits.length + (if negative then 1 else 0)

/-- Digits without a superfluous zero in front, after an optional minus. -/
def plainWhole? (cs : List Char) : Option Int :=
  let (negative, body) := takeMinus cs
  let leadingZero := body.head? = some '0' ∧ 1 < body.length
  if body.isEmpty ∨ !body.all Char.isDigit ∨ leadingZero ∨ isOverlong cs then none
  else some (applySign negative (ofDigits 10 (body.map fun c => (asciiDigit? c).getD 0)))

def dropPlus : List Char → Option (List Char)
  | '+' :: '-' :: _ => none
  | '+' :: cs => some cs
  | cs => some cs

/-- What is left of a text after the leniencies. The sign stands aside while zeros and underscores go. -/
def cleanedWhole? (cs : List Char) : Option (List Char) := do
  let (negative, body) := takeMinus (← dropPlus (strip isWhiteSpace cs))
  let body := dropUnderscores (dropZeroFraction (← dropZeros body))
  pure (if negative then '-' :: body else body)

/-- Only a number that needs no cleaning is told to be too long. -/
def wholeOfText (s : String) : Decoded Int :=
  let cs := s.toList
  if isOverlong cs then .reject .oversizedWhole
  else match plainWhole? cs <|> (cleanedWhole? cs).bind plainWhole? with
    | some n => .accepted n
    | none => .reject .unreadableWhole

/-- Doubles count only if they are whole and fit a 64-bit word. -/
def wholeOfFloat (x : Float) : Decoded Int :=
  match Parts.ofFloat x with
  | .finite negative m q =>
    let (num, den) := Shortest.scaled m q 0
    if num % den ≠ 0 then .reject .fractional
    else if num / den < .pow 2 63 then .accepted (applySign negative (num / den))
    else .reject .oversizedWhole
  | _ => .reject .notFinite

def whole : Decoder Int := fun v =>
  match v with
  | .bool b => .accepted (if b then 1 else 0)
  | .int n => .accepted n
  | .float x => wholeOfFloat x
  | v =>
    match Content.of v with
    | .characters s => wholeOfText s
    | .halves => .reject .undecodableText
    | .undecodable => .reject .unreadableWhole
    | .other => .reject .notWhole

def checkNatural (n : Int) : Decoded Nat := if n < 0 then .reject .negative else .accepted n.toNat

def natural : Decoder Nat := fun v => (whole v).andCheck checkNatural

/-! ## Points in time -/

def timeOfText (s : String) : Decoded DateTime :=
  match DateTime.ofText s with
  | .ok t => .accepted t
  | .error .yearZero => .reject .unreadableTime
  | .error .unreadable => .reject .unreadableDay

def timeOfCount : Except DateTime.UnixFault DateTime → Decoded DateTime
  | .ok t => .accepted t
  | .error _ => .reject .unreadableTime

/-- Whole numbers that are past all doubles are no counts. -/
def time : Decoder DateTime := fun v =>
  match v with
  | .datetime t => .accepted t
  | .date d => .accepted ⟨d, .midnight, none⟩
  | .int n => if n.natAbs < pastDoubles then timeOfCount (DateTime.ofUnixCount n) else .reject .notTime
  | .float x => timeOfCount (Lenient.ofFloat x)
  | v =>
    match Content.of v with
    | .characters s => timeOfText s
    | .halves => .reject .undecodableText
    | .undecodable => .reject .unreadableDay
    | .other => .reject .notTime

/-! ## Choices, lists, mappings -/

/-- One of a few texts, given with what each stands for. -/
def oneOf (first : String × α) (between : List (String × α)) (last : String × α) : Decoder α := fun v =>
  let unknown := Fault.notOneOf first.1 (between.map Prod.fst) last.1
  match Content.of v with
  | .characters s =>
    match (first :: between ++ [last]).lookup s with
    | some a => .accepted a
    | none => .reject unknown
  | .halves => .reject .undecodableText
  | .undecodable | .other => .reject unknown

def itemsFrom (d : Decoder α) : Int → List Value → Decoded (List α)
  | _, [] => .accepted []
  | i, v :: vs => List.cons <$> (d v).within (.index i) <*> itemsFrom d (i + 1) vs

def listOf (d : Decoder α) : Decoder (List α) := fun v =>
  match v.expose with
  | .list xs | .tuple xs | .set xs => itemsFrom d 0 xs
  | _ => .reject .notList

/-- The issues of a key are shown one level below it. -/
def keyOf (k : Value) : Decoded Text := ((text k).within (.name "[key]")).within (.ofKey k)

def entriesOf (d : Decoder α) : Entries → Decoded (List (Text × α))
  | [] => .accepted []
  | (k, v) :: es =>
    (fun name a rest => (name, a) :: rest) <$> keyOf k <*> (d v).within (.ofKey k) <*> entriesOf d es

/-- Set a name, in place if it is there. -/
def putName (name : Text) (a : α) : List (Text × α) → List (Text × α)
  | [] => [(name, a)]
  | (l, b) :: es => if l = name then (l, a) :: es else (l, b) :: putName name a es

/-- A mapping from texts; of keys that are given twice, as text and as bytes, the last counts. -/
def mappingOf (d : Decoder α) : Decoder (List (Text × α)) := fun v =>
  match v.expose with
  | .map es => (entriesOf d es).map fun pairs => pairs.foldl (fun acc p => putName p.1 p.2 acc) []
  | _ => .reject .notMapping

def anything : Decoder Value := .accepted

end Decoder

/-! ## Records -/

/-- A field has a name of words joined by underscores and a key, which is what manifests use. -/
structure FieldName where
  name : String
  key : String
deriving DecidableEq, Repr

/-- What a document gives for a field, and under which of its two names; the key comes first. -/
def FieldName.given? (f : FieldName) (es : Entries) : Option (String × Value) :=
  match es.get? f.key with
  | some v => some (f.key, v)
  | none => (es.get? f.name).map (f.name, ·)

section

variable {α : Type}

/-- The entries of a document of a model. -/
def record (model : String) (build : Entries → Decoded α) : Decoder α := fun v =>
  match v.expose with
  | .map es => build es
  | _ => .reject (.notRecord model)

/-- A field that may be left out. -/
def FieldName.decode (f : FieldName) (es : Entries) (d : Decoder α) (default : α) : Decoded α :=
  match f.given? es with
  | some (given, v) => (d v).within (.name given)
  | none => .accepted default

/-- A field that must be there. -/
def FieldName.require (f : FieldName) (es : Entries) (d : Decoder α) : Decoded α :=
  match f.given? es with
  | some (given, v) => (d v).within (.name given)
  | none => (Decoded.reject .missing).within (.name f.key)

end

end Readiness.Schema
