import Readiness.Yaml.Fault
import Readiness.Yaml.Plain

/-!
# Quoted scalars

Scalars in single or double quotes. Only double quotes allow escapes. Line ends within the quotes are folded, and
blanks around them go.
-/
namespace Readiness.Yaml.Quoted

open Text

/-- Escapes of one character. -/
def simpleEscape? (c : Char) : Option Char :=
  ([('0', '\x00'), ('a', '\x07'), ('b', '\x08'), ('t', '\t'), ('\t', '\t'), ('n', '\n'), ('v', '\x0b'),
    ('f', '\x0c'), ('r', '\r'), ('e', '\x1b'), (' ', ' '), ('"', '"'), ('\\', '\\'), ('/', '/'),
    ('N', '\x85'), ('_', '\xa0'), ('L', '\u2028'), ('P', '\u2029')] : List (Char × Char)).lookup c

/-- The number of hexadecimal digits that a numeric escape has. -/
def escapeWidth? (c : Char) : Option Nat :=
  if c = 'x' then some 2 else if c = 'u' then some 4 else if c = 'U' then some 8 else none

/-- Characters that end a run of plain ones. -/
def isSpecial (c : Char) : Bool := c == '\'' || c == '"' || c == '\\' || isBlankOrEnd c

/-- The code point of a numeric escape, and the place after it. Halves of characters are taken as they come. -/
def numericEscape (width : Nat) (c : Cursor) : Except Fault (CodePoint × Cursor) :=
  let digits := c.rest.take width
  if digits.length = width ∧ digits.all isHexDigit then
    let n := ofHex digits
    if h : n < 0x110000 then .ok (⟨n, h⟩, c.advance width) else .error (.scalar (.codePoint n))
  else .error .malformed

/-- Line ends and blanks after a line end. A document mark is not allowed here. -/
def emptyLines : Nat → Cursor → List Char → Except Fault (List Char × Cursor)
  | 0, c, acc => .ok (acc, c)
  | fuel + 1, c, acc =>
    if c.atDocumentMark then .error .malformed
    else
      let c := c.skipWhile fun ch => ch == ' ' || ch == '\t'
      match c.lineBreak? with
      | some (b, c') => emptyLines fuel c' (acc ++ [b])
      | none => .ok (acc, c)

/-- Blanks and line ends between other characters. -/
def spaces (c : Cursor) : Except Fault (List Char × Cursor) :=
  let (blanks, c') := c.takeWhile fun ch => ch == ' ' || ch == '\t'
  match c'.lineBreak? with
  | some (b, next) => do
    let (more, after) ← emptyLines (next.rest.length + 1) next []
    pure (folded b more, after)
  | none => if c'.rest.isEmpty then .error .malformed else .ok (blanks, c')

/-- What follows a backslash in double quotes. -/
def escape (c : Cursor) : Except Fault (List CodePoint × Cursor) :=
  let ch := c.head
  match simpleEscape? ch, escapeWidth? ch with
  | some r, _ => .ok ([.ofChar r], c.step)
  | none, some width => do
    let (n, after) ← numericEscape width c.step
    pure ([n], after)
  | none, none =>
    match c.lineBreak? with
    | some (_, next) => do
      let (more, after) ← emptyLines (next.rest.length + 1) next []
      pure (more.map .ofChar, after)
    | none => .error .malformed

/-- The text up to the closing quote, and the place after it. -/
def body (double : Bool) : Nat → Cursor → List CodePoint → Except Fault (List CodePoint × Cursor)
  | 0, _, _ => .error .malformed
  | fuel + 1, c, acc =>
    let (run, c) := c.takeWhile fun ch => !isSpecial ch
    let acc := acc ++ run.map .ofChar
    let ch := c.head
    if !double && ch == '\'' then
      if c.peek 1 = '\'' then body double fuel (c.advance 2) (acc ++ [.ofChar '\'']) else .ok (acc, c.step)
    else if double && ch == '"' then .ok (acc, c.step)
    else if ch == '\'' || ch == '"' || (!double && ch == '\\') then body double fuel c.step (acc ++ [.ofChar ch])
    else if ch == '\\' then do
      let (more, after) ← escape c.step
      body double fuel after (acc ++ more)
    else do
      let (more, after) ← spaces c
      body double fuel after (acc ++ more.map .ofChar)

/-- Read a scalar from its opening quote on. -/
def read (double : Bool) (c : Cursor) : Except Fault (List CodePoint × Cursor) :=
  body double (c.rest.length + 1) c.step []

end Readiness.Yaml.Quoted
