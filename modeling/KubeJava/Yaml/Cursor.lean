import KubeJava.Yaml.Input

set_option autoImplicit false

/-! # Cursors

A place in YAML text with the line and column it stands at. Line ends have been made uniform before,
so a line ends at a line feed or at one of three Unicode line separators. -/

namespace KubeJava.Yaml

/-- A reading that may fail. -/
abbrev Reading := Except Problem

/-! ## Characters -/

def isBreak (c : Char) : Bool := c == '\n' || c == '\u0085' || c == '\u2028' || c == '\u2029'

/-- The byte order mark, which takes no column. -/
def byteOrderMark : Char := '\ufeff'

/-- The character read past the end of the text; it does not occur in the text. -/
def endMark : Char := '\x00'

def isBreakOrEnd (c : Char) : Bool := isBreak c || c == endMark

def isSpaceOrEnd (c : Char) : Bool := c == ' ' || isBreakOrEnd c

def isBlankOrEnd (c : Char) : Bool := c == '\t' || isSpaceOrEnd c

def isNameChar (c : Char) : Bool := c.isAlphanum || c == '-' || c == '_'

/-! ## Movement -/

structure Cursor where
  rest : List Char
  /-- The length of the rest. -/
  left : Nat
  index : Nat := 0
  line : Nat := 0
  column : Nat := 0
  /-- The problem that the rest ends with, if it is not the end of the text. -/
  behind : Option Problem := none

namespace Cursor

/-- The place at the start of a text, after a byte order mark. -/
def ofInput (input : Input) : Cursor :=
  let cs := if input.chars.head? = some byteOrderMark then input.chars.drop 1 else input.chars
  { rest := cs, left := cs.length, behind := input.behind }

def peek (c : Cursor) : Char := c.rest.headD endMark

def peekAt (c : Cursor) (n : Nat) : Char := c.rest.getD n endMark

/-- One character further. -/
def next (c : Cursor) : Cursor :=
  match c.rest with
  | [] => c
  | ch :: rest =>
    let moved := { c with rest, left := c.left - 1, index := c.index + 1 }
    if isBreak ch then { moved with line := c.line + 1, column := 0 }
    else if ch = byteOrderMark then moved
    else { moved with column := c.column + 1 }

def skip (c : Cursor) : Nat → Cursor
  | 0 => c
  | n + 1 => c.next.skip n

/-- The longest run of characters of a class, and the place after it. -/
def span (c : Cursor) (p : Char → Bool) : List Char × Cursor :=
  let run := c.rest.takeWhile p
  (run, c.skip run.length)

def skipWhile (c : Cursor) (p : Char → Bool) : Cursor := (c.span p).2

def skipSpaces (c : Cursor) : Cursor := c.skipWhile (· = ' ')

/-- The place at the end of the line if a comment starts here. -/
def skipComment (c : Cursor) : Cursor :=
  if c.peek = '#' then c.skipWhile (fun ch => !isBreak ch) else c

/-- A line end as it counts in a value, and the place after it; nothing if there is none here. -/
def lineBreak (c : Cursor) : List Char × Cursor :=
  if !isBreak c.peek then ([], c)
  else if c.peek = '\u2028' ∨ c.peek = '\u2029' then ([c.peek], c.next)
  else (['\n'], c.next)

/-- Whether three equal characters start here, with a blank after them. -/
def atMarker (c : Cursor) (ch : Char) : Bool :=
  c.peek == ch && c.peekAt 1 == ch && c.peekAt 2 == ch && isBlankOrEnd (c.peekAt 3)

/-- Whether a line that starts or ends a document begins here. -/
def atDocumentMarker (c : Cursor) : Bool := c.atMarker '-' || c.atMarker '.'

/-! ## Failure -/

/-- Whether a look at the next `n` characters meets no problem. -/
def seeing (c : Cursor) (n : Nat) : Reading Unit :=
  match c.behind with
  | some p => if c.left < n then .error p else .ok ()
  | none => .ok ()

/-- The failure of a reading that cannot go on here: if the text breaks off here, that is why. -/
def refuse {α : Type} (c : Cursor) : Reading α := do
  c.seeing 1
  throw .malformed

/-- The place itself if the character there passes, as some tokens need. -/
def expecting (c : Cursor) (p : Char → Bool) : Reading Cursor :=
  if p c.peek then .ok c else c.refuse

/-- Moves over one given character. -/
def past (c : Cursor) (ch : Char) : Reading Cursor :=
  if c.peek = ch then .ok c.next else c.refuse

end Cursor

end KubeJava.Yaml
