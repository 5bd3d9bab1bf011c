import Readiness.Text.Utf8
import Readiness.Yaml.Cursor
import Readiness.Yaml.Fault
import Readiness.Yaml.Token

/-!
# Anchors, tags and directives

The parts of a text that speak about nodes: the name by which a node is found again, its type, and the lines that
say how types are abbreviated.
-/
namespace Readiness.Yaml

open Text

/-- What may follow the name of a node. -/
def endsAnchor (c : Char) : Bool :=
  isBlankOrEnd c || c == '?' || c == ':' || c == ',' || c == ']' || c == '\x7d' || c == '%' || c == '@'
    || c == '\x60'

/-- A name after `&` or `*`. -/
def anchorName (c : Cursor) : Except Fault (String × Cursor) :=
  let (name, after) := c.step.takeWhile isNameChar
  if name.isEmpty || !endsAnchor after.head then .error .malformed else .ok (String.ofList name, after)

/-- The characters of a tag that stand for themselves. -/
def isTagChar (c : Char) : Bool :=
  c.isAlphanum || c ∈ ['-', ';', '/', '?', ':', '@', '&', '=', '+', '$', ',', '_', '.', '!', '~', '*', '\'', '(',
    ')', '[', ']']

/-- The bytes of a run of `%xx`. -/
def escapedBytes : Nat → Cursor → Except Fault (List UInt8 × Cursor)
  | 0, c => .ok ([], c)
  | fuel + 1, c =>
    if c.head = '%' then
      let a := c.peek 1
      let b := c.peek 2
      if isHexDigit a && isHexDigit b then do
        let (bs, after) ← escapedBytes fuel (c.advance 3)
        pure (UInt8.ofNat (ofHex [a, b]) :: bs, after)
      else .error .malformed
    else .ok ([], c)

/-- The text of a tag; escaped bytes spell its other characters in UTF-8. -/
def tagText : Nat → Cursor → List Char → Except Fault (List Char × Cursor)
  | 0, c, acc => .ok (acc, c)
  | fuel + 1, c, acc =>
    if c.head = '%' then do
      let (bs, after) ← escapedBytes c.rest.length c
      match decodeUtf8 bs with
      | .ok s => tagText fuel after (acc ++ s.toList)
      | .error _ => throw Fault.malformed
    else
      let (run, after) := c.takeWhile isTagChar
      if run.isEmpty then .ok (acc, c) else tagText fuel after (acc ++ run)

/-- The text of a tag, which is not empty. -/
def tagSuffix (c : Cursor) : Except Fault (String × Cursor) := do
  let (text, after) ← tagText (c.rest.length + 1) c []
  if after.rest.length = c.rest.length then throw Fault.malformed
  else pure (String.ofList text, after)

/-- A handle: `!`, `!!` or `!name!`. -/
def tagHandle (c : Cursor) : Except Fault (String × Cursor) :=
  if c.head ≠ '!' then .error .malformed
  else if c.peek 1 = ' ' then .ok ("!", c.step)
  else
    let (name, after) := c.step.takeWhile isNameChar
    if after.head = '!' then .ok (String.ofList ('!' :: name ++ ['!']), after.step)
    else .error .malformed

/-- A tag from its `!` on: verbatim in angle brackets, the lone `!`, or a handle and a suffix. -/
def tagToken (c : Cursor) : Except Fault (Token × Cursor) := do
  let next := c.peek 1
  let (token, after) ←
    if next = '<' then do
      let (suffix, after) ← tagSuffix (c.advance 2)
      if after.head = '>' then pure (Token.tag none suffix, after.step) else throw Fault.malformed
    else if isBlankOrEnd next then pure (Token.tag none "!", c.step)
    else do
      let ahead := c.step.rest.takeWhile fun ch => !isSpaceOrEnd ch
      let (handle, after) ← if '!' ∈ ahead then tagHandle c else pure ("!", c.step)
      let (suffix, after) ← tagSuffix after
      pure (Token.tag (some handle) suffix, after)
  if isSpaceOrEnd after.head then pure (token, after) else throw Fault.malformed

namespace Directive

def number (c : Cursor) : Except Fault (Nat × Cursor) :=
  let (digits, after) := c.takeWhile Char.isDigit
  if digits.isEmpty then .error .malformed
  else if mostDigits < digits.length then .error (.scalar (.tooManyDigits digits.length))
  else .ok (ofDigits 10 (digits.map fun d => (asciiDigit? d).getD 0), after)

/-- The version `major.minor`. -/
def versionText (c : Cursor) : Except Fault (Directive × Cursor) := do
  let (major, c) ← number (c.skipWhile (· == ' '))
  if c.head ≠ '.' then throw Fault.malformed
  let (_, c) ← number c.step
  if isSpaceOrEnd c.head then pure (.version major, c) else throw Fault.malformed

/-- A handle and what it stands for. -/
def handleText (c : Cursor) : Except Fault (Directive × Cursor) := do
  let (name, c) ← tagHandle (c.skipWhile (· == ' '))
  if c.head ≠ ' ' then throw Fault.malformed
  let (expansion, c) ← tagSuffix (c.skipWhile (· == ' '))
  if isSpaceOrEnd c.head then pure (.handle name expansion, c) else throw Fault.malformed

/-- A directive from its `%` on, with the rest of its line. -/
def read (c : Cursor) : Except Fault (Directive × Cursor) := do
  let (name, c) := c.step.takeWhile isNameChar
  if name.isEmpty || !isSpaceOrEnd c.head then throw Fault.malformed
  let (d, c) ←
    if name = ['Y', 'A', 'M', 'L'] then versionText c
    else if name = ['T', 'A', 'G'] then handleText c
    else pure (Directive.other, c.skipWhile fun ch => !isLineEnd ch)
  let c := (c.skipWhile (· == ' ')).skipComment
  if isLineEnd c.head then pure (d, c.skipLineBreak) else throw Fault.malformed

end Directive

end Readiness.Yaml
