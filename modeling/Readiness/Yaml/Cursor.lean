import Readiness.Text.Digit

/-!
# Places in a text

A cursor is the rest of a text together with where in it this rest begins. Past the end stands U+0000, which no
YAML text contains.
-/
namespace Readiness.Yaml

/-- Ends of lines. -/
def isBreak (c : Char) : Bool :=
  c == '\n' || c == '\r' || c == '\x85' || c == '\u2028' || c == '\u2029'

/-- The end of the text or of a line. -/
def isLineEnd (c : Char) : Bool := c == '\x00' || isBreak c

/-- A space, or the end of the text or of a line. -/
def isSpaceOrEnd (c : Char) : Bool := c == ' ' || isLineEnd c

/-- A space, a tab, or the end of the text or of a line. -/
def isBlankOrEnd (c : Char) : Bool := c == '\t' || isSpaceOrEnd c

/-- Letters, digits, `-` and `_`: the characters of names. -/
def isNameChar (c : Char) : Bool := c.isAlphanum || c == '-' || c == '_'

/-- What may stand in a text at all. -/
def isAllowed (c : Char) : Bool :=
  let n := c.toNat
  n == 0x09 || n == 0x0A || n == 0x0D || (0x20 ≤ n && n ≤ 0x7E) || n == 0x85
    || (0xA0 ≤ n && n ≤ 0xFFFD) || 0x10000 ≤ n

structure Cursor where
  rest : List Char
  index : Nat := 0
  line : Nat := 0
  column : Nat := 0

namespace Cursor

/-- The character at a distance. -/
def peek (c : Cursor) (k : Nat) : Char := c.rest.getD k '\x00'

def head (c : Cursor) : Char := c.rest.headD '\x00'

/-- Move over one character. A byte order mark takes up no column. -/
def step (c : Cursor) : Cursor :=
  match c.rest with
  | [] => c
  | ch :: rest =>
    if (ch ≠ '\r' ∧ isBreak ch) ∨ (ch = '\r' ∧ rest.head? ≠ some '\n') then
      ⟨rest, c.index + 1, c.line + 1, 0⟩
    else if ch = '\uFEFF' then ⟨rest, c.index + 1, c.line, c.column⟩
    else ⟨rest, c.index + 1, c.line, c.column + 1⟩

def advance (c : Cursor) : Nat → Cursor
  | 0 => c
  | n + 1 => c.step.advance n

/-- The run of characters of a class, and the place after it. -/
def takeWhile (p : Char → Bool) (c : Cursor) : List Char × Cursor :=
  let run := c.rest.takeWhile p
  (run, c.advance run.length)

def skipWhile (p : Char → Bool) (c : Cursor) : Cursor := (c.takeWhile p).2

/-- One end of a line: the two characters of a network line end count as one, and all but the separators of
Unicode become U+000A. -/
def lineBreak? (c : Cursor) : Option (Char × Cursor) :=
  let ch := c.head
  if ch = '\r' ∧ c.peek 1 = '\n' then some ('\n', c.advance 2)
  else if ch = '\r' ∨ ch = '\n' ∨ ch = '\x85' then some ('\n', c.step)
  else if isBreak ch then some (ch, c.step)
  else none

def skipLineBreak (c : Cursor) : Cursor :=
  match c.lineBreak? with
  | some (_, c') => c'
  | none => c

/-- A comment, if one starts here, up to the end of the line. -/
def skipComment (c : Cursor) : Cursor :=
  if c.head = '#' then c.skipWhile fun ch => !isLineEnd ch else c

/-- Whether three given characters and then a blank stand here. -/
def marks (c : Cursor) (ch : Char) : Bool :=
  c.head == ch && c.peek 1 == ch && c.peek 2 == ch && isBlankOrEnd (c.peek 3)

/-- Whether the mark of a document's start or end stands here. -/
def atDocumentMark (c : Cursor) : Bool := c.marks '-' || c.marks '.'

end Cursor

end Readiness.Yaml
