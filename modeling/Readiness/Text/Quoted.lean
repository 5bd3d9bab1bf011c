import Readiness.Text.Basic
import Readiness.Text.Printable

/-!
# Quoted text

Two written forms of a text. The *displayed* form stands in messages: it is quoted with `'` unless the text has a
`'` and no `"`, and what cannot be printed is escaped by its code point. The *JSON* form is quoted with `"` and
keeps to ASCII, characters beyond the basic plane being written as a surrogate pair. Halves of characters are escaped
in both.
-/
namespace Readiness.Text

/-- The hexadecimal digits of `n`, lower case, exactly `width` of them. -/
def hexDigits : Nat → Nat → List Char
  | 0, _ => []
  | width + 1, n => hexDigits width (n / 16) ++ [(n % 16).digitChar]

namespace Displayed

/-- A double quote is used where it saves escaping. -/
def quoteFor (cs : List CodePoint) : Char :=
  if ('\'' : CodePoint) ∈ cs ∧ ('"' : CodePoint) ∉ cs then '"' else '\''

/-- The escape of a code point by its number. -/
def escapeNumber (n : Nat) : List Char :=
  if n < 0x100 then '\\' :: 'x' :: hexDigits 2 n
  else if n < 0x10000 then '\\' :: 'u' :: hexDigits 4 n
  else '\\' :: 'U' :: hexDigits 8 n

def escapeChar (quote c : Char) : List Char :=
  if c = quote ∨ c = '\\' then ['\\', c]
  else if c = '\n' then ['\\', 'n']
  else if c = '\r' then ['\\', 'r']
  else if c = '\t' then ['\\', 't']
  else if isPrintable c then [c]
  else escapeNumber c.toNat

def escape (quote : Char) (c : CodePoint) : List Char :=
  match c.char? with
  | some ch => escapeChar quote ch
  | none => escapeNumber c.val

def encode (cs : List CodePoint) : List Char :=
  let q := quoteFor cs
  q :: cs.flatMap (escape q) ++ [q]

/-- Bytes are displayed like text after a `b`; every byte outside printable ASCII is escaped by its value. -/
def encodeBytes (bs : List UInt8) : List Char :=
  let cs := bs.map fun b => Char.ofNat b.toNat
  let q := quoteFor (cs.map .ofChar)
  let one (c : Char) : List Char := if c.toNat < 0x7F then escapeChar q c else escapeNumber c.toNat
  'b' :: q :: cs.flatMap one ++ [q]

end Displayed

/-- The words on neighbouring halves of characters that have no encoding, the first of which has a given place. -/
def unencodableMessage (position : Nat) (halves : List CodePoint) : String :=
  let place := match halves with
    | [c] => s!"character '{String.ofList (Displayed.escapeNumber c.val)}' in position {position}"
    | _ => s!"characters in position {position}-{position + halves.length - 1}"
  s!"'utf-8' codec can't encode {place}: surrogates not allowed"

namespace Json

/-- The escape of one sixteen-bit unit. -/
def escapeUnit (n : Nat) : List Char := '\\' :: 'u' :: hexDigits 4 n

def escapeChar (c : Char) : List Char :=
  if c = '"' ∨ c = '\\' then ['\\', c]
  else if c = '\n' then ['\\', 'n']
  else if c = '\r' then ['\\', 'r']
  else if c = '\t' then ['\\', 't']
  else if c = '\x0c' then ['\\', 'f']
  else if c = '\x08' then ['\\', 'b']
  else if 0x20 ≤ c.toNat ∧ c.toNat < 0x7F then [c]
  else if c.toNat < 0x10000 then escapeUnit c.toNat
  else
    let n := c.toNat - 0x10000
    escapeUnit (0xD800 + n / 0x400) ++ escapeUnit (0xDC00 + n % 0x400)

/-- A half of a character is a unit of its own. -/
def escape (c : CodePoint) : List Char :=
  match c.char? with
  | some ch => escapeChar ch
  | none => escapeUnit c.val

def encode (cs : List CodePoint) : List Char := '"' :: cs.flatMap escape ++ ['"']

end Json

/-- The displayed form of a text. -/
def displayed (t : Text) : String := String.ofList (Displayed.encode t.points)

/-- The JSON form of a text. -/
def jsonQuoted (t : Text) : String := String.ofList (Json.encode t.points)

example : displayed "it's" = "\"it's\"" := by decide
example : jsonQuoted "😀" = "\"\\ud83d\\ude00\"" := by decide
example : displayed ⟨[0xD83D]⟩ = "'\\ud83d'" := by decide

end Readiness.Text
