import KubeJava.Yaml.Lexeme

set_option autoImplicit false

/-! # Layout

The tokens of a text. Outside brackets, indentation opens and closes block collections. Anything on
one line may turn out to be a key when a colon follows it; until then its place is remembered, one
for each depth of brackets, and the tokens that announce a key are put in afterwards. A text that
breaks off gives the tokens that are settled by then. -/

namespace KubeJava.Yaml

/-- A place where a key may have started. -/
structure PossibleKey where
  /-- The depth of brackets that it started in. -/
  depth : Nat
  /-- The number of tokens before it. -/
  tokens : Nat
  /-- Whether nothing but a key can stand there. -/
  required : Bool
  index : Nat
  line : Nat
  column : Nat

structure Layout where
  cursor : Cursor
  /-- The tokens so far, the last one first. -/
  tokens : List Token := []
  count : Nat := 0
  depth : Nat := 0
  /-- The column of the block collection in force, and those of the ones around it. -/
  indent : Int := -1
  outerIndents : List Int := []
  /-- Whether a key may start here. -/
  allowKey : Bool := true
  possibleKeys : List PossibleKey := []

namespace Layout

def maxKeyLength : Nat := 1024

def inFlow (l : Layout) : Bool := l.depth ≠ 0

def push (l : Layout) (t : Token) : Layout :=
  { l with tokens := t :: l.tokens, count := l.count + 1 }

/-- Puts a token in before the tokens from a given one on. -/
def pushBefore (l : Layout) (position : Nat) (t : Token) : Layout :=
  let after := l.count - position
  { l with
    tokens := l.tokens.take after ++ t :: l.tokens.drop after
    count := l.count + 1 }

/-! ## Indentation -/

/-- Closes the block collections that are deeper than a column. -/
def unwindTo (column : Int) : List Int → Layout → Layout
  | outers, l =>
    if l.inFlow ∨ l.indent ≤ column then l
    else
      match outers with
      | [] => { l.push .blockEnd with indent := -1 }
      | outer :: outers =>
        unwindTo column outers { l.push .blockEnd with indent := outer, outerIndents := outers }

def unwind (l : Layout) (column : Int) : Layout := unwindTo column l.outerIndents l

/-- Opens a block collection at a column unless one is open there. -/
def openBlock (l : Layout) (column position : Nat) (start : Token) : Layout :=
  if l.indent < column then
    { l.pushBefore position start with
      indent := column
      outerIndents := l.indent :: l.outerIndents }
  else l

/-! ## Possible keys -/

/-- Forgets the possible keys that are on an earlier line or too long. -/
def dropStaleKeys (l : Layout) : Reading Layout :=
  let isStale (k : PossibleKey) : Bool :=
    k.line ≠ l.cursor.line || maxKeyLength < l.cursor.index - k.index
  if l.possibleKeys.any fun k => isStale k && k.required then throw .malformed
  else .ok { l with possibleKeys := l.possibleKeys.filter fun k => !isStale k }

/-- Forgets the possible key at the present depth. -/
def dropKey (l : Layout) : Reading Layout :=
  if l.possibleKeys.any fun k => k.depth = l.depth && k.required then throw .malformed
  else .ok { l with possibleKeys := l.possibleKeys.filter fun k => k.depth ≠ l.depth }

/-- Remembers that a key may start here. -/
def saveKey (l : Layout) : Reading Layout := do
  if !l.allowKey then return l
  let required : Bool := !l.inFlow && l.indent = l.cursor.column
  let l ← l.dropKey
  let k : PossibleKey :=
    { depth := l.depth
      tokens := l.count
      required
      index := l.cursor.index
      line := l.cursor.line
      column := l.cursor.column }
  return { l with possibleKeys := k :: l.possibleKeys }

/-! ## Between tokens -/

/-- Moves over spaces, comments and line ends. Outside brackets a key may start on a new line. -/
def skipBlanks : (fuel : Nat) → Layout → Layout
  | 0, l => l
  | fuel + 1, l =>
    match (l.cursor.skipSpaces.skipComment).lineBreak with
    | ([], c) => { l with cursor := c }
    | (_, c) => skipBlanks fuel { l with cursor := c, allowKey := l.allowKey || !l.inFlow }

/-! ## Single tokens -/

/-- Ends all block collections, for a line that starts or ends a document. -/
def endBlocks (l : Layout) : Reading Layout := do
  let l ← (l.unwind (-1)).dropKey
  return { l with allowKey := false }

def documentMarker (l : Layout) (t : Token) : Reading Layout := do
  let l ← l.endBlocks
  return { l with cursor := l.cursor.skip 3 }.push t

def directive (l : Layout) : Reading Layout := do
  let l ← l.endBlocks
  let (d, c) ← directiveLexeme l.cursor
  return { l with cursor := c }.push (.directive d)

def openFlow (l : Layout) (t : Token) : Reading Layout := do
  let l ← l.saveKey
  return { l with depth := l.depth + 1, allowKey := true, cursor := l.cursor.next }.push t

def closeFlow (l : Layout) (t : Token) : Reading Layout := do
  if !l.inFlow then l.cursor.next.refuse
  let l ← l.dropKey
  return { l with depth := l.depth - 1, allowKey := false, cursor := l.cursor.next }.push t

def flowEntry (l : Layout) : Reading Layout := do
  let l ← l.dropKey
  return { l with allowKey := true, cursor := l.cursor.next }.push .flowEntry

/-- Opens a block collection for an indicator, which is allowed only where a key is. -/
def openBlockHere (l : Layout) (start : Token) : Reading Layout :=
  if l.inFlow then .ok l
  else if l.allowKey then .ok (l.openBlock l.cursor.column l.count start)
  else throw .malformed

def blockEntry (l : Layout) : Reading Layout := do
  let l ← l.openBlockHere .blockSequenceStart
  let l ← l.dropKey
  return { l with allowKey := true, cursor := l.cursor.next }.push .blockEntry

def explicitKey (l : Layout) : Reading Layout := do
  let l ← l.openBlockHere .blockMappingStart
  let l ← l.dropKey
  return { l with allowKey := !l.inFlow, cursor := l.cursor.next }.push .key

/-- A colon: what was a possible key is one, and starts a block mapping if it stands deeper. -/
def value (l : Layout) : Reading Layout := do
  let l ←
    match l.possibleKeys.find? fun k => k.depth = l.depth with
    | some k =>
      let l := { l with possibleKeys := l.possibleKeys.filter fun k => k.depth ≠ l.depth }
      let l := l.pushBefore k.tokens .key
      let l := if l.inFlow then l else l.openBlock k.column k.tokens .blockMappingStart
      pure { l with allowKey := false }
    | none =>
      let l ← l.openBlockHere .blockMappingStart
      l.dropKey.map fun l => { l with allowKey := !l.inFlow }
  return { l with cursor := l.cursor.next }.push .value

/-- A token with content that may start a key and after which no key may start. -/
def content (l : Layout) (lexeme : Cursor → Reading (Token × Cursor)) : Reading Layout := do
  let l ← l.saveKey
  let (t, c) ← lexeme l.cursor
  return { l with cursor := c, allowKey := false }.push t

def anchored (make : String → Token) (c : Cursor) : Reading (Token × Cursor) := do
  let (name, c) ← anchorLexeme c
  return (make name, c)

def blockScalar (l : Layout) : Reading Layout := do
  let l ← l.dropKey
  let (t, c) ← blockLexeme l.indent l.cursor
  return { l with cursor := c, allowKey := true }.push t

def plain (l : Layout) : Reading Layout := do
  let l ← l.saveKey
  let ((t, crossed), c) := plainLexeme l.inFlow l.indent l.cursor
  c.seeing (if c.peek = ':' then 2 else 1)
  return { l with cursor := c, allowKey := crossed }.push t

/-- Whether a plain scalar may start with a character, by the one after it. -/
def startsPlain (inFlow : Bool) (ch after : Char) : Bool :=
  (!isBlankOrEnd ch && !("-?:,[]\x7b\x7d#&*!|>'\"%@`".toList.contains ch)) ||
    (!isBlankOrEnd after && (ch == '-' || (!inFlow && (ch == '?' || ch == ':'))))

/-- How many characters decide which token starts with a character. -/
def lookAhead (l : Layout) : Nat :=
  let c := l.cursor
  if c.column = 0 ∧ (c.peek = '-' ∨ c.peek = '.') then
    if c.peekAt 1 = c.peek ∧ c.peekAt 2 = c.peek then 4 else 3
  else if c.peek = '-' ∨ (!l.inFlow ∧ (c.peek = '?' ∨ c.peek = ':')) then 2
  else 1

/-- Reads the token at the cursor. -/
def token (l : Layout) : Reading Layout := do
  l.cursor.seeing l.lookAhead
  let ch := l.cursor.peek
  let after := l.cursor.peekAt 1
  let atLineStart : Bool := l.cursor.column = 0
  let standsAlone : Bool := l.inFlow || isBlankOrEnd after
  if ch = '%' ∧ atLineStart then l.directive
  else if atLineStart ∧ l.cursor.atMarker '-' then l.documentMarker .documentStart
  else if atLineStart ∧ l.cursor.atMarker '.' then l.documentMarker .documentEnd
  else if ch = '[' then l.openFlow .flowSequenceStart
  else if ch = '\x7b' then l.openFlow .flowMappingStart
  else if ch = ']' then l.closeFlow .flowSequenceEnd
  else if ch = '\x7d' then l.closeFlow .flowMappingEnd
  else if ch = ',' then l.flowEntry
  else if ch = '-' ∧ isBlankOrEnd after then l.blockEntry
  else if ch = '?' ∧ standsAlone then l.explicitKey
  else if ch = ':' ∧ standsAlone then l.value
  else if ch = '*' then l.content (anchored .alias)
  else if ch = '&' then l.content (anchored .anchor)
  else if ch = '!' then l.content tagLexeme
  else if (ch = '|' ∨ ch = '>') ∧ !l.inFlow then l.blockScalar
  else if ch = '\'' ∨ ch = '"' then l.content quotedLexeme
  else if startsPlain l.inFlow ch after then l.plain
  else
    l.cursor.seeing 2
    throw .malformed

/-- The end of the text, which ends all block collections. -/
def finish (l : Layout) : Reading Layout := do
  let l ← (l.unwind (-1)).dropKey
  return { l with possibleKeys := [] }.push .streamEnd

/-- Moves on to the next token and reads it. -/
def advance (l : Layout) : Reading Layout := do
  let l := skipBlanks (l.cursor.left + 1) l
  l.cursor.seeing 1
  let l ← l.dropStaleKeys
  let l := l.unwind l.cursor.column
  if l.cursor.rest.isEmpty then l.finish
  else
    let l ← l.token
    l.cursor.seeing 1
    l.dropStaleKeys

def isFinished (l : Layout) : Bool := l.tokens.head? = some .streamEnd

/-- The tokens before which no key can be put in any more. -/
def settled (l : Layout) : List Token :=
  l.tokens.reverse.take ((l.possibleKeys.map (·.tokens)).foldl min l.count)

/-- Reads tokens up to the end of the text, at most `fuel` times: the settled ones, and the problem
that stands behind them if there is one. -/
def run : (fuel : Nat) → Layout → List Token × Option Problem
  | 0, l => (l.settled, some .malformed)
  | fuel + 1, l =>
    if l.isFinished then (l.settled, none)
    else
      match l.advance with
      | .error p => (l.settled, some p)
      | .ok l => run fuel l

end Layout

/-- The tokens of a text as far as it can be read, and the problem behind them; the last token of a
text without a problem marks its end. Each reading takes at least one character. -/
def tokens (input : Input) : List Token × Option Problem :=
  let c := Cursor.ofInput input
  Layout.run (c.left + 2) { cursor := c }

end KubeJava.Yaml
