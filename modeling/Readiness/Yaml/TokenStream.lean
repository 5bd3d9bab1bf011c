import Readiness.Yaml.Block
import Readiness.Yaml.Property
import Readiness.Yaml.Quoted

/-!
# Token streams

The tokens of a text. A text may break off at a fault, and then the tokens in front of it still count: the documents
that they complete are read before the fault is found.

That a scalar is a key of a mapping shows only when its colon comes. Until then it is a candidate, and the tokens
that announce it are put in front of it afterwards. A candidate must be on one line and not longer than 1024
characters, and where only a key can stand, giving it up is a fault.
-/
namespace Readiness.Yaml

/-- A token that may turn out to be a key: its place among the tokens and in the text. -/
structure Candidate where
  number : Nat
  required : Bool
  index : Nat
  line : Nat
  column : Nat

/-- The tokens so far, the last one first, and what the next one depends on: how many brackets are open, the
indentation of the open blocks, whether a key can start here, and the candidates by number of brackets. -/
structure TokenState where
  cursor : Cursor
  tokens : List Token := []
  count : Nat := 0
  flow : Nat := 0
  indent : Int := -1
  outer : List Int := []
  keyAllowed : Bool := true
  candidates : List (Nat × Candidate) := []

namespace TokenState

def push (t : Token) (s : TokenState) : TokenState :=
  { s with tokens := t :: s.tokens, count := s.count + 1 }

/-- Put a token in front of the token of a number. -/
def pushBefore (number : Nat) (t : Token) (s : TokenState) : TokenState :=
  let later := s.count - number
  { s with tokens := s.tokens.take later ++ t :: s.tokens.drop later, count := s.count + 1 }

def allowKey (b : Bool) (s : TokenState) : TokenState := { s with keyAllowed := b }

def moveTo (c : Cursor) (s : TokenState) : TokenState := { s with cursor := c }

/-- Whether a candidate has been left behind at a place. -/
def isStale (c : Cursor) (k : Candidate) : Bool := k.line != c.line || 1024 < c.index - k.index

/-- `stale_possible_simple_keys`: give up the candidates that have been left behind. -/
def dropStale (s : TokenState) : Except Fault TokenState :=
  if s.candidates.any fun k => isStale s.cursor k.2 && k.2.required then .error .malformed
  else .ok { s with candidates := s.candidates.filter fun k => !isStale s.cursor k.2 }

def candidate? (s : TokenState) : Option Candidate := s.candidates.lookup s.flow

def forget (s : TokenState) : TokenState :=
  { s with candidates := s.candidates.filter fun k => k.1 != s.flow }

/-- `remove_possible_simple_key`: give up the candidate between the current brackets. -/
def giveUp (s : TokenState) : Except Fault TokenState :=
  match s.candidate? with
  | some k => if k.required then .error .malformed else .ok s.forget
  | none => .ok s

/-- `save_possible_simple_key`: make the next token a candidate, if a key can start here. -/
def nominate (s : TokenState) : Except Fault TokenState :=
  if s.keyAllowed then do
    let s ← s.giveUp
    let c := s.cursor
    let k : Candidate := ⟨s.count, s.flow == 0 && s.indent == c.column, c.index, c.line, c.column⟩
    pure { s with candidates := (s.flow, k) :: s.candidates }
  else .ok s

/-- End the blocks that are indented more than a column. -/
def closeBlocks (column : Int) : List Int → TokenState → TokenState
  | [], s => s
  | i :: is, s =>
    if column < s.indent then closeBlocks column is { s.push .blockEnd with indent := i, outer := is }
    else s

/-- `unwind_indent`: end blocks; between brackets indentation does not count. -/
def unwind (column : Int) (s : TokenState) : TokenState :=
  if s.flow = 0 then closeBlocks column s.outer s else s

/-- Whether a block starts at a column. -/
def deepens (column : Nat) (s : TokenState) : Bool := s.indent < column

def deepen (column : Nat) (s : TokenState) : TokenState :=
  { s with indent := column, outer := s.indent :: s.outer }

/-- `add_indent`: start a block at the current column, if it is deeper than the block around it. -/
def openBlock (t : Token) (s : TokenState) : TokenState :=
  let column := s.cursor.column
  if s.deepens column then (s.deepen column).push t else s

/-- `scan_to_next_token`: move over blanks, comments and line ends. A key can start on a new line. -/
def skipBlank : Nat → TokenState → TokenState
  | 0, s => s
  | fuel + 1, s =>
    let c := (s.cursor.skipWhile (· == ' ')).skipComment
    match c.lineBreak? with
    | some (_, c') => skipBlank fuel { s with cursor := c', keyAllowed := s.keyAllowed || s.flow == 0 }
    | none => s.moveTo c

/-- The byte order mark in front of a text. -/
def skipMark (s : TokenState) : TokenState :=
  if s.cursor.index = 0 ∧ s.cursor.head = '\uFEFF' then s.moveTo s.cursor.step else s

/-! ## Single tokens -/

def streamEnd (s : TokenState) : Except Fault TokenState := do
  let s ← (s.unwind (-1)).giveUp
  pure ((s.allowKey false).push .streamEnd)

/-- `fetch_directive`: a directive, at which all blocks end. -/
def directive (s : TokenState) : Except Fault TokenState := do
  let s ← (s.unwind (-1)).giveUp
  let (d, c) ← Directive.read s.cursor
  pure (((s.allowKey false).push (.directive d)).moveTo c)

def documentMark (t : Token) (s : TokenState) : Except Fault TokenState := do
  let s ← (s.unwind (-1)).giveUp
  pure (((s.allowKey false).push t).moveTo (s.cursor.advance 3))

/-- `fetch_flow_collection_start`: brackets open. -/
def flowStart (t : Token) (s : TokenState) : Except Fault TokenState := do
  let s ← s.nominate
  pure { (s.allowKey true).push t with flow := s.flow + 1, cursor := s.cursor.step }

/-- `fetch_flow_collection_end`: brackets close. -/
def flowEnd (t : Token) (s : TokenState) : Except Fault TokenState := do
  let s ← s.giveUp
  pure { (s.allowKey false).push t with flow := s.flow - 1, cursor := s.cursor.step }

def flowEntry (s : TokenState) : Except Fault TokenState := do
  let s ← (s.allowKey true).giveUp
  pure ((s.push .flowEntry).moveTo s.cursor.step)

/-- The start of an indicator that begins a line of a block. -/
def startLine (t : Token) (s : TokenState) : Except Fault TokenState :=
  if s.flow ≠ 0 then .ok s
  else if s.keyAllowed then .ok (s.openBlock t)
  else .error .malformed

/-- `fetch_block_entry`: a dash. -/
def blockEntry (s : TokenState) : Except Fault TokenState := do
  let s ← s.startLine .blockSequenceStart
  let s ← (s.allowKey true).giveUp
  pure ((s.push .blockEntry).moveTo s.cursor.step)

/-- `fetch_key`: a question mark. -/
def key (s : TokenState) : Except Fault TokenState := do
  let s ← s.startLine .blockMappingStart
  let s ← (s.allowKey (s.flow == 0)).giveUp
  pure ((s.push .key).moveTo s.cursor.step)

/-- `fetch_value`: a colon makes the candidate a key, and a block of it if it is deeper than the block around it. -/
def value (s : TokenState) : Except Fault TokenState := do
  let s ← match s.candidate? with
    | some k =>
      let s := s.forget.pushBefore k.number .key
      let s := if s.flow = 0 ∧ s.deepens k.column then
          (s.deepen k.column).pushBefore k.number .blockMappingStart
        else s
      pure (s.allowKey false)
    | none => do
      let s ← s.startLine .blockMappingStart
      (s.allowKey (s.flow == 0)).giveUp
  pure ((s.push .value).moveTo s.cursor.step)

def mention (s : TokenState) : Except Fault TokenState := do
  let s ← s.nominate
  let (name, c) ← anchorName s.cursor
  pure (((s.allowKey false).push (.mention name)).moveTo c)

def anchor (s : TokenState) : Except Fault TokenState := do
  let s ← s.nominate
  let (name, c) ← anchorName s.cursor
  pure (((s.allowKey false).push (.anchor name)).moveTo c)

def tag (s : TokenState) : Except Fault TokenState := do
  let s ← s.nominate
  let (t, c) ← tagToken s.cursor
  pure (((s.allowKey false).push t).moveTo c)

def blockScalar (folds : Bool) (s : TokenState) : Except Fault TokenState := do
  let s ← (s.allowKey true).giveUp
  let (text, c) ← Block.read folds s.indent s.cursor.step
  pure ((s.push (.scalar (.ofChars text) false)).moveTo c)

def quotedScalar (double : Bool) (s : TokenState) : Except Fault TokenState := do
  let s ← s.nominate
  let (text, c) ← Quoted.read double s.cursor
  pure (((s.allowKey false).push (.scalar ⟨text⟩ false)).moveTo c)

def plainScalar (s : TokenState) : Except Fault TokenState := do
  let s ← s.nominate
  let r := Plain.read (s.flow != 0) (s.indent + 1) s.cursor
  pure (((s.allowKey r.crossedLine).push (.scalar (.ofChars r.text) true)).moveTo r.after)

/-- `check_plain`: whether a plain scalar starts here. Some indicators start one if no blank follows them. -/
def startsPlain (s : TokenState) : Bool :=
  let c := s.cursor.head
  let indicator := isBlankOrEnd c || c ∈ ['-', '?', ':', ',', '[', ']', '\x7b', '\x7d', '#', '&', '*', '!', '|',
    '>', '\'', '"', '%', '@', '\x60']
  !indicator || (!isBlankOrEnd (s.cursor.peek 1) && (c == '-' || (s.flow == 0 && (c == '?' || c == ':'))))

/-! ## The whole stream -/

/-- `fetch_more_tokens`: read the next token, of a state that stands at its start. -/
def token (s : TokenState) : Except Fault TokenState :=
  let c := s.cursor
  let ch := c.head
  let blankNext := isBlankOrEnd (c.peek 1)
  let atColumnZero := c.column == 0
  if c.rest.isEmpty then s.streamEnd
  else if ch == '%' && atColumnZero then s.directive
  else if atColumnZero && c.marks '-' then s.documentMark .documentStart
  else if atColumnZero && c.marks '.' then s.documentMark .documentEnd
  else if ch == '[' then s.flowStart .flowSequenceStart
  else if ch == '\x7b' then s.flowStart .flowMappingStart
  else if ch == ']' then s.flowEnd .flowSequenceEnd
  else if ch == '\x7d' then s.flowEnd .flowMappingEnd
  else if ch == ',' then s.flowEntry
  else if ch == '-' && blankNext then s.blockEntry
  else if ch == '?' && (s.flow != 0 || blankNext) then s.key
  else if ch == ':' && (s.flow != 0 || blankNext) then s.value
  else if ch == '*' then s.mention
  else if ch == '&' then s.anchor
  else if ch == '!' then s.tag
  else if ch == '|' && s.flow == 0 then s.blockScalar false
  else if ch == '>' && s.flow == 0 then s.blockScalar true
  else if ch == '\'' then s.quotedScalar false
  else if ch == '"' then s.quotedScalar true
  else if s.startsPlain then s.plainScalar
  else .error .malformed

/-- Read one more token. -/
def next (s : TokenState) : Except Fault TokenState := do
  let s ← (skipBlank (s.cursor.rest.length + 1) s.skipMark).dropStale
  (s.unwind s.cursor.column).token

/-- The tokens that are certain: those in front of all candidates. -/
def certain (s : TokenState) : List Token :=
  let live := (s.candidates.filter fun k => !isStale s.cursor k.2).map fun k => k.2.number
  s.tokens.reverse.take (live.foldl min s.count)

end TokenState

/-- The tokens of a text, up to its end or to a fault. -/
structure TokenStream where
  tokens : List Token
  fault : Option Fault

/-- Read tokens to the end; the fuel bounds their number. -/
def TokenState.run : Nat → TokenState → TokenStream
  | 0, s => ⟨s.certain, some .malformed⟩
  | fuel + 1, s =>
    match s.next with
    | .error f => ⟨s.certain, some f⟩
    | .ok s' =>
      if s'.tokens.head? = some .streamEnd then ⟨s'.tokens.reverse, none⟩ else s'.run fuel

/-- A text with characters that are not allowed has no tokens at all. -/
def TokenStream.ofText (text : Text) : TokenStream :=
  match text.chars?.filter (·.all isAllowed) with
  | some cs => TokenState.run (cs.length + 1) { cursor := { rest := cs } }
  | none => ⟨[], some .malformed⟩

end Readiness.Yaml
