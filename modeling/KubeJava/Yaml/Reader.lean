import KubeJava.Yaml.Graph
import KubeJava.Yaml.Layout

set_option autoImplicit false

/-! # Reading nodes

The node graphs that tokens spell, one for each document. A collection has its number, and its
anchor, as soon as it is opened, so an alias inside it may stand for the collection itself. Tokens
are looked at one by one, and a text that breaks off fails only when a token behind its end is asked
for. -/

namespace KubeJava.Yaml

structure ReaderState where
  tokens : List Token
  /-- The problem that the tokens end with, if they do not end the text. -/
  behind : Option Problem := none
  /-- The nodes that were anchored, each under its name. -/
  anchors : List (String × NodeId) := []
  /-- What the tag handles of the document stand for. -/
  handles : List (String × String) := []
  graph : Graph := #[]

abbrev Reader := StateT ReaderState Reading

namespace Reader

/-! ## Tokens -/

def malformed {α : Type} : Reader α := fun _ => .error .malformed

def peek : Reader Token := fun s =>
  match s.tokens with
  | t :: _ => .ok (t, s)
  | [] => .error (s.behind.getD .malformed)

def drop : Reader Unit := modify fun s => { s with tokens := s.tokens.tail }

/-- Moves over a token if it is the next one. -/
def skip? (t : Token) : Reader Bool := do
  if (← peek) = t then
    drop
    return true
  else return false

def expect (t : Token) : Reader Unit := do
  if !(← skip? t) then malformed

/-- Whether the next token is one of some tokens. -/
def isAt (ts : List Token) : Reader Bool := do return ts.contains (← peek)

/-! ## Properties of nodes -/

def anchor? : Reader (Option String) := do
  match ← peek with
  | .anchor name =>
    drop
    return some name
  | _ => return none

/-- A tag as it is written: a handle and what follows it. -/
def writtenTag? : Reader (Option (Option String × String)) := do
  match ← peek with
  | .tag handle suffix =>
    drop
    return some (handle, suffix)
  | _ => return none

/-- The tag with the handle replaced by what it stands for. -/
def resolveTag : Option String × String → Reader String
  | (none, suffix) => return suffix
  | (some handle, suffix) => do
    match (← get).handles.lookup handle with
    | some leader => return leader ++ suffix
    | none => malformed

/-- An anchor and a tag, in either order. -/
def properties : Reader (Option String × Option String) := do
  let first ← anchor?
  let written ← writtenTag?
  let anchor ← if first.isNone && written.isSome then anchor? else pure first
  let tag ← written.mapM resolveTag
  return (anchor, tag)

/-! ## Placing nodes -/

def add (n : Node) : Reader NodeId :=
  modifyGet fun s => (s.graph.size, { s with graph := s.graph.push n })

/-- Adds a node under an anchor; a name can be anchored once in a document. -/
def place (anchor : Option String) (n : Node) : Reader NodeId := do
  match anchor with
  | none => add n
  | some name =>
    if ((← get).anchors.lookup name).isSome then malformed
    let id ← add n
    modify fun s => { s with anchors := (name, id) :: s.anchors }
    return id

def aliased (name : String) : Reader NodeId := do
  match (← get).anchors.lookup name with
  | some id => return id
  | none => malformed

def emptyNode : Reader NodeId := add ⟨Tag.null, .scalar ""⟩

/-- The tag of a collection: a lone exclamation mark leaves it to the kind. -/
def collectionTag (tag : Option String) (default : String) : String :=
  match tag with
  | none => default
  | some t => if t = "!" then default else t

/-- The tag of a scalar: a plain one without a tag, or one with a lone exclamation mark, gets the
tag that its text looks like. -/
def scalarTag (tag : Option String) (plain : Bool) (text : Text) : String :=
  match tag with
  | none => if plain then Tag.ofText text else Tag.str
  | some t => if t = "!" then Tag.ofText text else t

def scalar (anchor tag : Option String) (plain : Bool) (text : Text) : Reader NodeId :=
  place anchor ⟨scalarTag tag plain text, .scalar text⟩

/-- Places a sequence, then reads its items. -/
def sequence (anchor tag : Option String) (items : Reader (List NodeId)) : Reader NodeId := do
  let id ← place anchor ⟨collectionTag tag Tag.seq, .sequence []⟩
  let read ← items
  modify fun s => { s with graph := s.graph.setContent id (.sequence read) }
  return id

/-- Places a mapping, then reads its entries. -/
def mapping (anchor tag : Option String) (entries : Reader (List (NodeId × NodeId))) :
    Reader NodeId := do
  let id ← place anchor ⟨collectionTag tag Tag.map, .mapping []⟩
  let read ← entries
  modify fun s => { s with graph := s.graph.setContent id (.mapping read) }
  return id

/-! ## Nodes -/

/-- Where a node stands, by which some forms are allowed or not. -/
inductive Position where
  /-- Inside brackets. -/
  | flow
  | block
  /-- At a key or value, where a sequence need not be indented. -/
  | entry
  deriving DecidableEq

mutual

def node (position : Position) : (fuel : Nat) → Reader NodeId
  | 0 => malformed
  | fuel + 1 => do
    match ← peek with
    | .alias name =>
      drop
      aliased name
    | _ =>
      let (anchor, tag) ← properties
      content position anchor tag fuel

/-- The node after its properties. -/
def content (position : Position) (anchor tag : Option String) : (fuel : Nat) → Reader NodeId
  | 0 => malformed
  | fuel + 1 => do
    match ← peek with
    | .scalar text plain =>
      drop
      scalar anchor tag plain text
    | .flowSequenceStart =>
      drop
      sequence anchor tag (flowItems true fuel)
    | .flowMappingStart =>
      drop
      mapping anchor tag (flowEntries true fuel)
    | t =>
      if t = .blockEntry ∧ position = .entry then sequence anchor tag (looseItems fuel)
      else if t = .blockSequenceStart ∧ position ≠ .flow then
        drop
        sequence anchor tag (blockItems fuel)
      else if t = .blockMappingStart ∧ position ≠ .flow then
        drop
        mapping anchor tag (blockEntries fuel)
      else if anchor.isSome ∨ tag.isSome then scalar anchor tag true ""
      else malformed

/-- A node, or the empty one if one of the given tokens is next. -/
def nodeBefore (position : Position) (ends : List Token) : (fuel : Nat) → Reader NodeId
  | 0 => malformed
  | fuel + 1 => do
    if ← isAt ends then emptyNode else node position fuel

/-- The value after a key, empty if there is no sign of one. -/
def valueBefore (position : Position) (ends : List Token) : (fuel : Nat) → Reader NodeId
  | 0 => malformed
  | fuel + 1 => do
    if ← skip? .value then nodeBefore position ends fuel else emptyNode

/-- The items of an indented sequence. -/
def blockItems : (fuel : Nat) → Reader (List NodeId)
  | 0 => malformed
  | fuel + 1 => do
    if ← skip? .blockEntry then
      let item ← nodeBefore .block [.blockEntry, .blockEnd] fuel
      return item :: (← blockItems fuel)
    else
      expect .blockEnd
      return []

/-- The items of a sequence that is not indented, so that no token ends it. -/
def looseItems : (fuel : Nat) → Reader (List NodeId)
  | 0 => malformed
  | fuel + 1 => do
    if ← skip? .blockEntry then
      let item ← nodeBefore .block [.blockEntry, .key, .value, .blockEnd] fuel
      return item :: (← looseItems fuel)
    else return []

/-- The entries of an indented mapping. -/
def blockEntries : (fuel : Nat) → Reader (List (NodeId × NodeId))
  | 0 => malformed
  | fuel + 1 => do
    if ← skip? .key then
      let k ← nodeBefore .entry [.key, .value, .blockEnd] fuel
      let v ← valueBefore .entry [.key, .value, .blockEnd] fuel
      return (k, v) :: (← blockEntries fuel)
    else
      expect .blockEnd
      return []

/-- The items of a sequence in brackets. -/
def flowItems (first : Bool) : (fuel : Nat) → Reader (List NodeId)
  | 0 => malformed
  | fuel + 1 => do
    if ← skip? .flowSequenceEnd then return []
    if !first then expect .flowEntry
    if ← skip? .flowSequenceEnd then return []
    let item ← flowItem fuel
    return item :: (← flowItems false fuel)

/-- An item of a sequence in brackets; a lone entry is a mapping of its own. -/
def flowItem : (fuel : Nat) → Reader NodeId
  | 0 => malformed
  | fuel + 1 => do
    if ← skip? .key then mapping none none (flowPair fuel) else node .flow fuel

/-- The only entry of a mapping without braces. -/
def flowPair : (fuel : Nat) → Reader (List (NodeId × NodeId))
  | 0 => malformed
  | fuel + 1 => do
    let k ← nodeBefore .flow [.value, .flowEntry, .flowSequenceEnd] fuel
    let v ← valueBefore .flow [.flowEntry, .flowSequenceEnd] fuel
    return [(k, v)]

/-- The entries of a mapping in braces. -/
def flowEntries (first : Bool) : (fuel : Nat) → Reader (List (NodeId × NodeId))
  | 0 => malformed
  | fuel + 1 => do
    if ← skip? .flowMappingEnd then return []
    if !first then expect .flowEntry
    if ← skip? .flowMappingEnd then return []
    let entry ← flowEntry fuel
    return entry :: (← flowEntries false fuel)

/-- An entry of a mapping in braces; a lone node is a key without value. -/
def flowEntry : (fuel : Nat) → Reader (NodeId × NodeId)
  | 0 => malformed
  | fuel + 1 => do
    if ← skip? .key then
      let k ← nodeBefore .flow [.value, .flowEntry, .flowMappingEnd] fuel
      let v ← valueBefore .flow [.flowEntry, .flowMappingEnd] fuel
      return (k, v)
    else
      let k ← node .flow fuel
      return (k, ← emptyNode)

end

/-! ## Documents -/

/-- The directives before a document: at most one version, which has to be 1, and tag handles. -/
def directives : (fuel : Nat) → (version : Bool) → List (String × String) →
    Reader (List (String × String))
  | 0, _, _ => malformed
  | fuel + 1, version, handles => do
    match ← peek with
    | .directive d =>
      drop
      match d with
      | .version major =>
        if version || major ≠ 1 then malformed
        directives fuel true handles
      | .tag handle leader =>
        if (handles.lookup handle).isSome then malformed
        directives fuel version ((handle, leader) :: handles)
      | .other => directives fuel version handles
    | _ => return handles

def defaultHandles : List (String × String) := [("!", "!"), ("!!", Tag.leader)]

/-- Starts with no nodes and no anchors. -/
def openDocument (handles : List (String × String)) : Reader Unit :=
  modify fun s => { s with anchors := [], handles := handles ++ defaultHandles, graph := #[] }

def skipDocumentEnds : (fuel : Nat) → Reader Unit
  | 0 => malformed
  | fuel + 1 => do
    if ← skip? .documentEnd then skipDocumentEnds fuel

/-- How the start of a document shows. -/
inductive DocumentStart where
  /-- By a mark of its own. -/
  | marked
  /-- By the content only. -/
  | plain
  deriving DecidableEq

/-- Moves over the mark of the next document, if there is one more. -/
def markedStart? (fuel : Nat) : Reader (Option DocumentStart) := do
  skipDocumentEnds fuel
  match ← peek with
  | .streamEnd => return none
  | _ =>
    openDocument (← directives fuel false [])
    expect .documentStart
    return some .marked

/-- Moves to the content of the next document, if there is one; the first needs no mark. -/
def start? (first : Bool) (fuel : Nat) : Reader (Option DocumentStart) := do
  match first, ← peek with
  | false, _ | _, .directive _ | _, .documentStart | _, .streamEnd => markedStart? fuel
  | _, _ =>
    openDocument []
    return some .plain

/-- The root of a document; one whose start is marked may have no content. -/
def root (start : DocumentStart) (fuel : Nat) : Reader NodeId := do
  match start, ← peek with
  | .marked, .directive _ | .marked, .documentStart | .marked, .documentEnd
  | .marked, .streamEnd => emptyNode
  | _, _ => node .block fuel

/-- The nodes of the next document and its root, if there is one. -/
def document? (first : Bool) (fuel : Nat) : Reader (Option (Graph × NodeId)) := do
  match ← start? first fuel with
  | none => return none
  | some start =>
    let id ← root start fuel
    let _ ← skip? .documentEnd
    return some ((← get).graph, id)

end Reader

end KubeJava.Yaml
