import Readiness.Yaml.Tag
import Readiness.Yaml.TokenStream

/-!
# Nodes

The graph that a document is, and how it is read off the tokens. Nodes name the nodes that they hold by number, and the
mention of a name is the number of the node that has it, be it inside that very node.
-/
namespace Readiness.Yaml

/-- What a node holds. -/
inductive Content
  | scalar (text : Text)
  | sequence (items : List Nat)
  | mapping (entries : List (Nat × Nat))
deriving DecidableEq, Repr

structure Node where
  tag : Tag
  content : Content
deriving DecidableEq, Repr

/-- A node that is left out. -/
def Node.absent : Node := ⟨.null, .scalar ""⟩

/-- A document. Its nodes are listed in `order` as they end, and so none comes before what it holds, unless it is inside
of that. -/
structure Graph where
  nodes : Array Node
  order : List Nat
  root : Nat

/-- The tokens that are left, the fault behind the last of them, the nodes of the document so far, those that have ended,
the last one first, and what names mean. -/
structure NodeState where
  tokens : List Token
  fault : Fault
  nodes : Array Node := #[]
  ended : List Nat := []
  anchors : List (String × Nat) := []
  handles : List (String × String) := []

abbrev NodeReader := StateT NodeState (Except Fault)

namespace NodeReader

def malformed {α : Type} : NodeReader α := throw Fault.malformed

/-- The next token. -/
def peek : NodeReader Token := do
  let s ← get
  match s.tokens with
  | t :: _ => pure t
  | [] => throw s.fault

def skip : NodeReader Unit := modify fun s => { s with tokens := s.tokens.tail }

/-- Take the next token if it is the given one. -/
def accept (t : Token) : NodeReader Bool := do
  if (← peek) = t then
    skip
    pure true
  else pure false

/-- Take the next token, which must be the given one. -/
def expect (t : Token) : NodeReader Unit := do
  if !(← accept t) then malformed

/-- Whether the next token is one of a few. -/
def nextIn (ts : List Token) : NodeReader Bool := return (← peek) ∈ ts

/-- Where a node stands: between brackets, in a block, or as a part of a mapping in a block, where the lines of a
sequence need no indentation. -/
inductive Place
  | flow
  | block
  | entry
deriving DecidableEq

def anchorToken : NodeReader (Option String) := do
  match ← peek with
  | .anchor name =>
    skip
    pure (some name)
  | _ => pure none

/-- What the handle of a tag stands for, put in its place. -/
def expanded (handle : Option String) (suffix : String) : NodeReader String := do
  match handle with
  | none => pure suffix
  | some h =>
    match (← get).handles.lookup h with
    | some expansion => pure (expansion ++ suffix)
    | none => malformed

/-- Anchor and tag in either order; both may be left out. -/
def properties : NodeReader (Option String × Option String) := do
  let readTag : NodeReader (Option (Option String × String)) := do
    match ← peek with
    | .tag handle suffix =>
      skip
      pure (some (handle, suffix))
    | _ => pure none
  let before ← anchorToken
  let tag ← readTag
  let after ← if before.isNone ∧ tag.isSome then anchorToken else pure none
  let full ← match tag with
    | some (handle, suffix) => some <$> expanded handle suffix
    | none => pure none
  pure (before <|> after, full)

/-- The number of a new node. A name can be given only once in a document. -/
def start (name : Option String) : NodeReader Nat := do
  let s ← get
  let i := s.nodes.size
  let anchors ← match name with
    | none => pure s.anchors
    | some a => if (s.anchors.lookup a).isSome then malformed else pure ((a, i) :: s.anchors)
  modify fun s => { s with nodes := s.nodes.push Node.absent, anchors := anchors }
  pure i

/-- The node of a number ends. -/
def finish (i : Nat) (n : Node) : NodeReader Nat := do
  modify fun s => { s with nodes := s.nodes.setIfInBounds i n, ended := i :: s.ended }
  pure i

def absent : NodeReader Nat := do finish (← start none) Node.absent

/-- Scalars without a tag are texts, except for plain ones. -/
def scalarTag (tag : Option String) (text : Text) (plain : Bool) : Tag :=
  match tag with
  | none => if plain then Tag.ofPlain text else .str
  | some "!" => Tag.ofPlain text
  | some t => Tag.ofText t

def collectionTag (tag : Option String) (default : Tag) : Tag :=
  match tag with
  | none | some "!" => default
  | some t => Tag.ofText t

/-- A node, unless what follows shows that it is left out. -/
def orAbsent (ends : List Token) (read : NodeReader Nat) : NodeReader Nat := do
  if ← nextIn ends then absent else read

/-- The value of an entry after its key: left out if there is no colon. -/
def entryValue (ends : List Token) (read : NodeReader Nat) : NodeReader Nat := do
  if ← accept .value then orAbsent ends read else absent

mutual
/-- `compose_node`: read a node; the fuel bounds the tokens it takes. -/
def node : Nat → Place → NodeReader Nat
  | 0, _ => malformed
  | fuel + 1, place => do
    match ← peek with
    | .mention name =>
      skip
      match (← get).anchors.lookup name with
      | some i => pure i
      | none => malformed
    | _ =>
      let (name, tag) ← properties
      let t ← peek
      let empty := name.isSome || tag.isSome
      match t with
      | .scalar text plain =>
        skip
        finish (← start name) ⟨scalarTag tag text plain, .scalar text⟩
      | .flowSequenceStart =>
        let i ← start name
        skip
        finish i ⟨collectionTag tag .seq, .sequence (← flowItems fuel true)⟩
      | .flowMappingStart =>
        let i ← start name
        skip
        finish i ⟨collectionTag tag .map, .mapping (← flowEntries fuel true)⟩
      | _ =>
        if t = .blockEntry ∧ place = .entry then
          let i ← start name
          finish i ⟨collectionTag tag .seq, .sequence (← levelItems fuel)⟩
        else if t = .blockSequenceStart ∧ place ≠ .flow then
          let i ← start name
          skip
          finish i ⟨collectionTag tag .seq, .sequence (← blockItems fuel)⟩
        else if t = .blockMappingStart ∧ place ≠ .flow then
          let i ← start name
          skip
          finish i ⟨collectionTag tag .map, .mapping (← blockEntries fuel)⟩
        else if empty then finish (← start name) ⟨scalarTag tag "" true, .scalar ""⟩
        else malformed

/-- The items of a sequence in a block of its own. -/
def blockItems : Nat → NodeReader (List Nat)
  | 0 => malformed
  | fuel + 1 => do
    if ← accept .blockEntry then
      let n ← orAbsent [.blockEntry, .blockEnd] (node fuel .block)
      let ns ← blockItems fuel
      pure (n :: ns)
    else
      expect .blockEnd
      pure []

/-- The items of a sequence whose lines are indented like the mapping it belongs to. -/
def levelItems : Nat → NodeReader (List Nat)
  | 0 => malformed
  | fuel + 1 => do
    if ← accept .blockEntry then
      let n ← orAbsent [.blockEntry, .key, .value, .blockEnd] (node fuel .block)
      let ns ← levelItems fuel
      pure (n :: ns)
    else pure []

def blockEntries : Nat → NodeReader (List (Nat × Nat))
  | 0 => malformed
  | fuel + 1 => do
    if ← accept .key then
      let ends := [Token.key, .value, .blockEnd]
      let k ← orAbsent ends (node fuel .entry)
      let v ← entryValue ends (node fuel .entry)
      let es ← blockEntries fuel
      pure ((k, v) :: es)
    else
      expect .blockEnd
      pure []

/-- The items of a sequence in brackets. An item with a key is a mapping of one entry. -/
def flowItems : Nat → Bool → NodeReader (List Nat)
  | 0, _ => malformed
  | fuel + 1, first => do
    if ← accept .flowSequenceEnd then pure []
    else
      if !first then expect .flowEntry
      if ← accept .key then
        let ends := [Token.flowEntry, .flowSequenceEnd]
        let i ← start none
        let k ← orAbsent (.value :: ends) (node fuel .flow)
        let v ← entryValue ends (node fuel .flow)
        let n ← finish i ⟨.map, .mapping [(k, v)]⟩
        let ns ← flowItems fuel false
        pure (n :: ns)
      else if ← accept .flowSequenceEnd then pure []
      else
        let n ← node fuel .flow
        let ns ← flowItems fuel false
        pure (n :: ns)

def flowEntries : Nat → Bool → NodeReader (List (Nat × Nat))
  | 0, _ => malformed
  | fuel + 1, first => do
    if ← accept .flowMappingEnd then pure []
    else
      if !first then expect .flowEntry
      if ← accept .key then
        let ends := [Token.flowEntry, .flowMappingEnd]
        let k ← orAbsent (.value :: ends) (node fuel .flow)
        let v ← entryValue ends (node fuel .flow)
        let es ← flowEntries fuel false
        pure ((k, v) :: es)
      else if ← accept .flowMappingEnd then pure []
      else
        let k ← node fuel .flow
        let v ← absent
        let es ← flowEntries fuel false
        pure ((k, v) :: es)
end

/-! ## Documents -/

/-- Handles that need no directive. -/
def standardHandles : List (String × String) := [("!", "!"), ("!!", Tag.space)]

/-- `process_directives`: directives in front of a document: at most one version, which must be of YAML 1, and handles,
each of them given once. -/
def directives : Nat → Bool → List (String × String) → NodeReader (List (String × String))
  | 0, _, _ => malformed
  | fuel + 1, versioned, handles => do
    match ← peek with
    | .directive d =>
      skip
      match d with
      | .version major => if versioned ∨ major ≠ 1 then malformed else directives fuel true handles
      | .handle name expansion =>
        if (handles.lookup name).isSome then malformed
        else directives fuel versioned (handles ++ [(name, expansion)])
      | .other => directives fuel versioned handles
    | _ => pure handles

def isDirective : Token → Bool
  | .directive _ => true
  | _ => false

/-- Whether the next token starts or ends a document. -/
def atDocumentEdge : NodeReader Bool := do
  let t ← peek
  pure (isDirective t || t ∈ [Token.documentStart, .documentEnd, .streamEnd])

def skipDocumentEnds : Nat → NodeReader Unit
  | 0 => malformed
  | fuel + 1 => do
    if ← accept .documentEnd then skipDocumentEnds fuel

/-- A new document: nothing has a name in it, apart from the given handles. -/
def fresh (handles : List (String × String)) : NodeReader Unit :=
  modify fun s => { s with nodes := #[], ended := [], anchors := [], handles := handles }

/-- The root of a document that starts with a mark. -/
def markedRoot (fuel : Nat) : NodeReader (Option Nat) := do
  skipDocumentEnds fuel
  if ← accept .streamEnd then pure none
  else
    let handles ← directives fuel false []
    expect .documentStart
    fresh (handles ++ standardHandles)
    if ← atDocumentEdge then some <$> absent else some <$> node fuel .block

/-- `compose_document`: the next document. Only the first one can do without a mark. -/
def document (fuel : Nat) (first : Bool) : NodeReader (Option Graph) := do
  let t ← peek
  let bare := first && !isDirective t && t ≠ .documentStart && t ≠ .streamEnd
  let root? ←
    if bare then do
      fresh standardHandles
      some <$> node fuel .block
    else markedRoot fuel
  match root? with
  | none => pure none
  | some root =>
    let _ ← accept .documentEnd
    let s ← get
    pure (some ⟨s.nodes, s.ended.reverse, root⟩)

end NodeReader

end Readiness.Yaml
