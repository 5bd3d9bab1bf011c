import Readiness.Yaml.Cursor

/-!
# Plain scalars

Scalars without quotes. They may go on over several lines, of which they keep the text but not the layout: one line
end becomes a space, of several all but the first are kept.
-/
namespace Readiness.Yaml

/-- The text that line ends within a scalar stand for: `first`, then the empty lines after it. -/
def folded (first : Char) (more : List Char) : List Char :=
  if first ≠ '\n' then first :: more else if more.isEmpty then [' '] else more

namespace Plain

/-- A colon ends a plain scalar where what follows shows that it is the colon of a mapping. -/
def endsKey (flow : Bool) (next : Char) : Bool :=
  isBlankOrEnd next || (flow && (next == ',' || next == '[' || next == ']' || next == '\x7b' || next == '\x7d'))

/-- Indicators that end a plain scalar inside brackets. -/
def endsInFlow (c : Char) : Bool :=
  c == ',' || c == '?' || c == '[' || c == ']' || c == '\x7b' || c == '\x7d'

/-- The longest run without blanks. -/
def word (flow : Bool) : List Char → List Char
  | [] => []
  | c :: cs =>
    if isBlankOrEnd c || (c == ':' && endsKey flow (cs.headD '\x00')) || (flow && endsInFlow c) then []
    else c :: word flow cs

/-- What lies between two words: the text it stands for, or nothing if the scalar cannot go on. -/
structure Gap where
  text : Option (List Char)
  after : Cursor
  crossesLine : Bool

/-- Empty lines and indentation after a line end. A document mark ends the scalar. -/
def emptyLines : Nat → Cursor → List Char → Option (List Char) × Cursor
  | 0, c, acc => (some acc, c)
  | fuel + 1, c, acc =>
    if c.head = ' ' then emptyLines fuel c.step acc
    else match c.lineBreak? with
      | some (b, c') =>
        if c'.atDocumentMark then (none, c') else emptyLines fuel c' (acc ++ [b])
      | none => (some acc, c)

def gap (c : Cursor) : Gap :=
  let (blanks, c') := c.takeWhile (· == ' ')
  match c'.lineBreak? with
  | none => ⟨some blanks, c', false⟩
  | some (b, next) =>
    if next.atDocumentMark then ⟨none, next, true⟩
    else
      let (more, after) := emptyLines next.rest.length next []
      ⟨more.map (folded b), after, true⟩

/-- A scalar that was read, the place after it, and whether the last thing read was a line end. -/
structure Reading where
  text : List Char
  after : Cursor
  crossedLine : Bool

/-- Words with gaps between them. Outside of brackets each line must be indented enough. -/
def words (flow : Bool) (indent : Int) : Nat → Cursor → List Char → Reading
  | 0, c, acc => ⟨acc, c, false⟩
  | fuel + 1, c, acc =>
    let w := word flow c.rest
    let found := acc ++ w
    let g := gap (c.advance w.length)
    let stopped : Reading := ⟨found, g.after, g.crossesLine⟩
    match g.text with
    | none | some [] => stopped
    | some between =>
      if g.after.head = '#' ∨ (!flow ∧ (g.after.column : Int) < indent)
          ∨ (word flow g.after.rest).isEmpty then stopped
      else words flow indent fuel g.after (found ++ between)

def read (flow : Bool) (indent : Int) (c : Cursor) : Reading := words flow indent c.rest.length c []

end Plain

end Readiness.Yaml
