import Readiness.Yaml.Fault
import Readiness.Yaml.Cursor

/-!
# Block scalars

Scalars that are set off by indentation, after `|` or `>`. A literal one keeps its line ends; in a folded one a
single line end between two lines of text becomes a space.
-/
namespace Readiness.Yaml.Block

open Text

/-- What happens to the line ends after the last line: all are kept, all go, or one is kept. -/
inductive Chomping
  | keep
  | strip
  | clip
deriving DecidableEq, Repr

/-- What stands after the indicator: the chomping, and how far the text is indented if that is told. -/
structure Header where
  chomping : Chomping := .clip
  indent : Option Nat := none

def chomping? (c : Char) : Option Chomping :=
  if c = '+' then some .keep else if c = '-' then some .strip else none

/-- The two parts of a header may stand in any order. An indentation of zero is refused. -/
def header (c : Cursor) : Except Fault (Header × Cursor) := do
  let (found, after) ← match chomping? c.head, asciiDigit? c.head with
    | some k, _ =>
      match asciiDigit? (c.peek 1) with
      | some 0 => throw Fault.malformed
      | some n => pure (⟨k, some n⟩, c.advance 2)
      | none => pure (⟨k, none⟩, c.step)
    | none, some 0 => throw Fault.malformed
    | none, some n =>
      match chomping? (c.peek 1) with
      | some k => pure (⟨k, some n⟩, c.advance 2)
      | none => pure (⟨.clip, some n⟩, c.step)
    | none, none => pure (({} : Header), c)
  if isSpaceOrEnd after.head then pure (found, after) else throw Fault.malformed

/-- The rest of a line that may hold a comment only. -/
def restOfLine (c : Cursor) : Except Fault Cursor :=
  let c := (c.skipWhile (· == ' ')).skipComment
  if isLineEnd c.head then .ok c.skipLineBreak else .error .malformed

/-- Empty lines in front of the text, and the widest indentation among them and the first line. -/
def leadingLines : Nat → Cursor → List Char → Nat → List Char × Nat × Cursor
  | 0, c, acc, widest => (acc, widest, c)
  | fuel + 1, c, acc, widest =>
    if c.head = ' ' then leadingLines fuel c.step acc (max widest c.step.column)
    else match c.lineBreak? with
      | some (b, c') => leadingLines fuel c' (acc ++ [b]) widest
      | none => (acc, widest, c)

/-- Move over spaces up to a column. -/
def indentTo (column : Nat) (c : Cursor) : Cursor :=
  c.advance (min (column - c.column) (c.rest.takeWhile (· == ' ')).length)

/-- Empty lines, up to the indentation of the line that follows. -/
def emptyLines (indent : Nat) : Nat → Cursor → List Char → List Char × Cursor
  | 0, c, acc => (acc, c)
  | fuel + 1, c, acc =>
    let c := indentTo indent c
    match c.lineBreak? with
    | some (b, c') => emptyLines indent fuel c' (acc ++ [b])
    | none => (acc, c)

/-- Whether a line of text starts here. -/
def startsLine (indent : Nat) (c : Cursor) : Bool := c.column == indent && !c.rest.isEmpty

def isBlank (c : Char) : Bool := c == ' ' || c == '\t'

/-- The text of the end of a line, if another line follows after `empty`. -/
def between (folds : Bool) (lineEnd : List Char) (startsBlank nextBlank : Bool) (empty : List Char) :
    List Char :=
  if folds && lineEnd == ['\n'] && !startsBlank && !nextBlank then
    if empty.isEmpty then [' '] else []
  else lineEnd

/-- What chomping leaves of the last line end and the empty lines after it. -/
def tail (k : Chomping) (lineEnd empty : List Char) : List Char :=
  match k with
  | .keep => lineEnd ++ empty
  | .clip => lineEnd
  | .strip => []

/-- The lines of the text, the empty lines in front of the next one being given. -/
def lines (folds : Bool) (k : Chomping) (indent : Nat) :
    Nat → Cursor → List Char → List Char → List Char × Cursor
  | 0, c, acc, _ => (acc, c)
  | fuel + 1, c, acc, empty =>
    let startsBlank := isBlank c.head
    let (line, c) := c.takeWhile fun ch => !isLineEnd ch
    let (lineEnd, c) := match c.lineBreak? with
      | some (b, c') => ([b], c')
      | none => ([], c)
    let acc := acc ++ empty ++ line
    let (more, c) := emptyLines indent (c.rest.length + 1) c []
    if startsLine indent c then
      lines folds k indent fuel c (acc ++ between folds lineEnd startsBlank (isBlank c.head) more) more
    else (acc ++ tail k lineEnd more, c)

/-- Read a scalar after its indicator, inside blocks that are indented by `outer` (-1 at the top). -/
def read (folds : Bool) (outer : Int) (c : Cursor) : Except Fault (List Char × Cursor) := do
  let (h, c) ← header c
  let c ← restOfLine c
  let least := (max 1 (outer + 1)).toNat
  let (empty, indent, c) := match h.indent with
    | none =>
      let (empty, widest, c) := leadingLines (c.rest.length + 1) c [] 0
      (empty, max least widest, c)
    | some n =>
      let indent := least + n - 1
      let (empty, c) := emptyLines indent (c.rest.length + 1) c []
      (empty, indent, c)
  if startsLine indent c then pure (lines folds h.chomping indent (c.rest.length + 1) c [] empty)
  else pure (tail h.chomping [] empty, c)

end Readiness.Yaml.Block
