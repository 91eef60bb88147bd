import KubeJava.Text.Hex
import KubeJava.Yaml.Cursor
import KubeJava.Yaml.Token

set_option autoImplicit false

/-! # Lexemes

Reading single tokens with content: names, tags, directives and the four forms of scalars. Each
reading starts at the first character of the token and gives the place after it. Lines are folded
into one by the rule that one line end becomes a space and further ones are kept. -/

namespace KubeJava.Yaml

/-! ## Names and tags -/

/-- A name of letters, digits, hyphens and underscores. -/
def nameLexeme (c : Cursor) : Reading (String × Cursor) :=
  match c.span isNameChar with
  | ([], c) => c.refuse
  | (name, c) => .ok (String.ofList name, c)

/-- The name of an anchor, after its indicator. -/
def anchorLexeme (c : Cursor) : Reading (String × Cursor) := do
  let (name, c) ← nameLexeme c.next
  let c ← c.expecting fun ch => isBlankOrEnd ch || "?:,]\x7d%@`".toList.contains ch
  return (name, c)

def isTagChar (c : Char) : Bool := c.isAlphanum || "-;/?:@&=+$,_.!~*'()[]".toList.contains c

/-- The number that exactly `width` hexadecimal digits give, and the place after them. -/
def hexLexeme (width : Nat) (c : Cursor) : Reading (Nat × Cursor) :=
  let digits := (c.rest.take width).takeWhile fun ch => (Text.digitValue? ch).isSome
  let c := c.skip digits.length
  match Text.readDigits? 16 digits, digits.length == width with
  | some n, true => .ok (n, c)
  | _, _ => c.refuse

/-- The bytes of a run of percent escapes, where there are at most `fuel` of them. -/
def escapedBytes : (fuel : Nat) → Cursor → Reading (List UInt8 × Cursor)
  | 0, c => .ok ([], c)
  | fuel + 1, c =>
    if c.peek = '%' then do
      let (n, c) ← hexLexeme 2 c.next
      let (bytes, c) ← escapedBytes fuel c
      return (UInt8.ofNat n :: bytes, c)
    else .ok ([], c)

/-- The text of a tag, percent escapes resolved; `fuel` bounds the number of its pieces. -/
def tagText : (fuel : Nat) → Cursor → Reading (List Char × Cursor)
  | 0, c => .ok ([], c)
  | fuel + 1, c => do
    let (run, c) := c.span isTagChar
    if c.peek = '%' then
      let (bytes, c) ← escapedBytes c.left c
      c.seeing 1
      match String.fromUTF8? ⟨bytes.toArray⟩ with
      | none => throw .malformed
      | some escaped =>
        let (more, c) ← tagText fuel c
        return (run ++ escaped.toList ++ more, c)
    else return (run, c)

def tagSuffix (c : Cursor) : Reading (String × Cursor) := do
  let c ← c.expecting fun ch => isTagChar ch || ch == '%'
  let (cs, c) ← tagText c.left c
  return (String.ofList cs, c)

/-- A handle: an exclamation mark, or a name between two of them. -/
def tagHandle (c : Cursor) : Reading (String × Cursor) := do
  let c ← c.past '!'
  if c.peek = ' ' then return ("!", c)
  let (name, c) := c.span isNameChar
  let c ← c.past '!'
  return (String.ofList ('!' :: name ++ ['!']), c)

/-- Whether another exclamation mark comes before the next blank. -/
def hasNamedHandle (c : Cursor) : Reading Bool := do
  let mark := c.next.skipWhile fun ch => !isSpaceOrEnd ch && ch != '!'
  mark.seeing 1
  return mark.peek = '!'

def tagLexeme (c : Cursor) : Reading (Token × Cursor) := do
  c.seeing 2
  let (token, c) ←
    if c.peekAt 1 = '<' then do
      let (suffix, c) ← tagSuffix (c.skip 2)
      let c ← c.past '>'
      pure (Token.tag none suffix, c)
    else if isBlankOrEnd (c.peekAt 1) then pure (Token.tag none "!", c.next)
    else do
      let (handle, c) ← if ← hasNamedHandle c then tagHandle c else pure ("!", c.next)
      let (suffix, c) ← tagSuffix c
      pure (Token.tag (some handle) suffix, c)
  let c ← c.expecting isSpaceOrEnd
  return (token, c)

/-! ## Directives -/

def numberLexeme (c : Cursor) : Reading (Nat × Cursor) :=
  let (digits, c) := c.span Char.isDigit
  match Text.readDigits? 10 digits with
  | none => c.refuse
  | some n =>
    if Document.maxShownDigits < digits.length then .error (.tooManyDigits digits.length)
    else .ok (n, c)

/-- The rest of a line that may only hold a comment. -/
def ignoredLine (c : Cursor) : Reading Cursor := do
  let c ← (c.skipSpaces.skipComment).expecting isBreakOrEnd
  return c.lineBreak.2

def directiveLexeme (c : Cursor) : Reading (Directive × Cursor) := do
  let (name, c) ← nameLexeme c.next
  let c ← c.expecting isSpaceOrEnd
  let (directive, c) ←
    if name = "YAML" then do
      let (major, c) ← numberLexeme c.skipSpaces
      let c ← c.past '.'
      let (_, c) ← numberLexeme c
      let c ← c.expecting isSpaceOrEnd
      pure (Directive.version major, c)
    else if name = "TAG" then do
      let (handle, c) ← tagHandle c.skipSpaces
      let c ← c.expecting (· = ' ')
      let (leader, c) ← tagSuffix c.skipSpaces
      let c ← c.expecting isSpaceOrEnd
      pure (Directive.tag handle leader, c)
    else pure (Directive.other, c.skipWhile fun ch => !isBreak ch)
  return (directive, ← ignoredLine c)

/-! ## Quoted scalars -/

/-- What one-letter escapes stand for. -/
def simpleEscapes : List (Char × Char) :=
  [('0', '\x00'), ('a', '\x07'), ('b', '\x08'), ('t', '\t'), ('\t', '\t'), ('n', '\n'),
    ('v', '\x0b'), ('f', '\x0c'), ('r', '\r'), ('e', '\x1b'), (' ', ' '), ('"', '"'), ('\\', '\\'),
    ('/', '/'), ('N', '\u0085'), ('_', '\u00a0'), ('L', '\u2028'), ('P', '\u2029')]

/-- How many hexadecimal digits follow an escape letter. -/
def codeEscapes : List (Char × Nat) := [('x', 2), ('u', 4), ('U', 8)]

/-- Line ends and the blanks around them; a line that starts or ends a document may not follow. -/
def quotedBreaks : (fuel : Nat) → Cursor → Reading (List Char × Cursor)
  | 0, c => .ok ([], c)
  | fuel + 1, c =>
    if c.atDocumentMarker then throw .malformed
    else
      let c := c.skipWhile fun ch => ch = ' ' || ch = '\t'
      match c.lineBreak with
      | ([], c) => .ok ([], c)
      | (lineEnd, c) => do
        let (more, c) ← quotedBreaks fuel c
        return (lineEnd ++ more, c)

/-- What a line end and those after it become in a value. -/
def foldBreaks (lineEnd breaks : List Char) : List Char :=
  if lineEnd ≠ ['\n'] then lineEnd ++ breaks
  else if breaks.isEmpty then [' ']
  else breaks

/-- An escape in double quotes, after its backslash. -/
def escapeLexeme (c : Cursor) : Reading (Text × Cursor) := do
  match simpleEscapes.lookup c.peek, codeEscapes.lookup c.peek with
  | some ch, _ => return (Text.ofChars [ch], c.next)
  | none, some width =>
    let (n, c) ← hexLexeme width c.next
    match CodePoint.ofNat? n with
    | some p => return ([p], c)
    | none => throw (if n < 0x80000000 then .noCodePoint else .codeTooLarge)
  | none, none =>
    if isBreak c.peek then
      let (breaks, c) ← quotedBreaks c.left c.lineBreak.2
      return (Text.ofChars breaks, c)
    else c.refuse

/-- Blanks and line ends inside quotes. -/
def quotedSpaces (c : Cursor) : Reading (List Char × Cursor) := do
  let (blanks, c) := c.span fun ch => ch = ' ' || ch = '\t'
  if c.rest.isEmpty then c.refuse
  else if isBreak c.peek then
    let (lineEnd, c) := c.lineBreak
    let (breaks, c) ← quotedBreaks (c.left + 1) c
    return (foldBreaks lineEnd breaks, c)
  else return (blanks, c)

/-- The characters up to a blank, a quote or a backslash. -/
def quotedRun (c : Cursor) : List Char × Cursor :=
  c.span fun ch => !isBlankOrEnd ch && ch != '\'' && ch != '"' && ch != '\\'

/-- The content up to the closing quote, in at most `fuel` pieces. -/
def quotedContent (double : Bool) : (fuel : Nat) → Cursor → Reading (Text × Cursor)
  | 0, _ => .error .malformed
  | fuel + 1, c => do
    let (piece, c) ←
      match c.rest with
      | [] => c.refuse
      | '\'' :: rest =>
        if double then pure (Text.ofChars ['\''], c.next)
        else if rest.head? = some '\'' then pure (Text.ofChars ['\''], c.skip 2)
        else return ([], c.next)
      | '"' :: _ => if double then return ([], c.next) else pure (Text.ofChars ['"'], c.next)
      | '\\' :: _ =>
        if double then escapeLexeme c.next else pure (Text.ofChars ['\\'], c.next)
      | ch :: _ => do
        let (cs, c) ← if isBlankOrEnd ch then quotedSpaces c else pure (quotedRun c)
        pure (Text.ofChars cs, c)
    let (more, c) ← quotedContent double fuel c
    return (piece ++ more, c)

def quotedLexeme (c : Cursor) : Reading (Token × Cursor) := do
  let (t, c) ← quotedContent (c.peek = '"') c.left c.next
  return (.scalar t false, c)

/-! ## Block scalars -/

/-- What happens to the line ends after the last line of a block scalar. -/
inductive Chomping where
  | clip
  | strip
  | keep
  deriving DecidableEq

def chompingIndicator (c : Cursor) : Option Chomping :=
  if c.peek = '+' then some .keep else if c.peek = '-' then some .strip else none

/-- The indentation indicator, a digit from 1 to 9. -/
def indentIndicator (c : Cursor) : Reading (Option Nat) :=
  if !c.peek.isDigit then .ok none
  else if c.peek = '0' then throw .malformed
  else .ok (some (c.peek.toNat - '0'.toNat))

/-- The two indicators of a block scalar, in either order. -/
def blockHeader (c : Cursor) : Reading ((Chomping × Option Nat) × Cursor) := do
  match chompingIndicator c with
  | some chomping =>
    let c := c.next
    let width ← indentIndicator c
    return ((chomping, width), if width.isSome then c.next else c)
  | none =>
    match ← indentIndicator c with
    | none => return ((.clip, none), c)
    | some width =>
      let c := c.next
      match chompingIndicator c with
      | some chomping => return ((chomping, some width), c.next)
      | none => return ((.clip, some width), c)

/-- Blank lines before the first line, which is as deep as the deepest run of spaces so far. -/
def blockIndentation : (fuel : Nat) → (deepest : Nat) → Cursor → (List Char × Nat) × Cursor
  | 0, deepest, c => (([], deepest), c)
  | fuel + 1, deepest, c =>
    let c := c.skipSpaces
    let deepest := max deepest c.column
    match c.lineBreak with
    | ([], c) => (([], deepest), c)
    | (lineEnd, c) =>
      let ((more, deepest), c) := blockIndentation fuel deepest c
      ((lineEnd ++ more, deepest), c)

/-- Moves over spaces up to a column. -/
def Cursor.skipToColumn (column : Nat) : (fuel : Nat) → Cursor → Cursor
  | 0, c => c
  | fuel + 1, c =>
    if c.column < column ∧ c.peek = ' ' then skipToColumn column fuel c.next else c

/-- The line ends of blank lines, up to a line with content, of which the indent is skipped. -/
def blockBreaks (indent : Nat) : (fuel : Nat) → Cursor → List Char × Cursor
  | 0, c => ([], c)
  | fuel + 1, c =>
    match (c.skipToColumn indent indent).lineBreak with
    | ([], c) => ([], c)
    | (lineEnd, c) =>
      let (more, c) := blockBreaks indent fuel c
      (lineEnd ++ more, c)

/-- What joins two lines of a block scalar. In a folded one, one line end between two lines that do
not start with a blank becomes a space, and vanishes before further line ends. -/
def joinBlockLines (folded : Bool) (first next : Char) (lineEnd breaks : List Char) : List Char :=
  let isBlank (ch : Char) : Bool := ch == ' ' || ch == '\t'
  if folded && lineEnd = ['\n'] && !isBlank first && !isBlank next then
    if breaks.isEmpty then [' '] else []
  else lineEnd

def chomp (chomping : Chomping) (lineEnd breaks : List Char) : List Char :=
  match chomping with
  | .strip => []
  | .clip => lineEnd
  | .keep => lineEnd ++ breaks

/-- The lines of a block scalar from a line with content on. -/
def blockLines (folded : Bool) (chomping : Chomping) (indent : Nat) :
    (fuel : Nat) → Cursor → List Char × Cursor
  | 0, c => ([], c)
  | fuel + 1, c =>
    let first := c.peek
    let (line, c) := c.span fun ch => !isBreak ch
    let (lineEnd, c) := c.lineBreak
    let (breaks, c) := blockBreaks indent (c.left + 1) c
    if c.column = indent ∧ !c.rest.isEmpty then
      let (more, c') := blockLines folded chomping indent fuel c
      (line ++ joinBlockLines folded first c.peek lineEnd breaks ++ breaks ++ more, c')
    else (line ++ chomp chomping lineEnd breaks, c)

/-- A block scalar inside a block of the given indentation. -/
def blockLexeme (parent : Int) (c : Cursor) : Reading (Token × Cursor) := do
  let folded : Bool := c.peek = '>'
  let ((chomping, width), c) ← blockHeader c.next
  let c ← c.expecting isSpaceOrEnd
  let c ← ignoredLine c
  let least := (max (parent + 1) 1).toNat
  let ((breaks, indent), c) :=
    match width with
    | some w =>
      let indent := least + w - 1
      let (breaks, c) := blockBreaks indent (c.left + 1) c
      ((breaks, indent), c)
    | none =>
      let ((breaks, deepest), c) := blockIndentation (c.left + 1) 0 c
      ((breaks, max least deepest), c)
  if c.column = indent ∧ !c.rest.isEmpty then
    let (cs, c) := blockLines folded chomping indent (c.left + 1) c
    return (.scalar (Text.ofChars (breaks ++ cs)) false, c)
  else return (.scalar (Text.ofChars (chomp chomping [] breaks)) false, c)

/-! ## Plain scalars -/

/-- The line ends after a line of a plain scalar; nothing if a line that starts or ends a document
follows. -/
def plainBreaks : (fuel : Nat) → Cursor → Option (List Char) × Cursor
  | 0, c => (some [], c)
  | fuel + 1, c =>
    if c.atDocumentMarker then (none, c)
    else
      match c.skipSpaces.lineBreak with
      | ([], c) => (some [], c)
      | (lineEnd, c) =>
        let (more, c) := plainBreaks fuel c
        (more.map (lineEnd ++ ·), c)

/-- Whether a plain scalar ends before the character here. -/
def endsPlain (inFlow : Bool) (ch after : Char) : Bool :=
  isBlankOrEnd ch ||
    (ch == ':' && (isBlankOrEnd after || (inFlow && ",[]\x7b\x7d".toList.contains after))) ||
    (inFlow && ",?[]\x7b\x7d".toList.contains ch)

/-- The characters of a plain scalar up to a blank or an indicator. -/
def plainRun (inFlow : Bool) : List Char → List Char
  | [] => []
  | ch :: rest =>
    if endsPlain inFlow ch (rest.headD endMark) then [] else ch :: plainRun inFlow rest

/-- A plain scalar with content from here on, and whether a line end was met after its last run, so
that a key may follow. -/
def plainContent (inFlow : Bool) (indent : Int) :
    (fuel : Nat) → Cursor → (List Char × Bool) × Cursor
  | 0, c => (([], false), c)
  | fuel + 1, c =>
    let run := plainRun inFlow c.rest
    let c := c.skip run.length
    let (spaces, c) := c.span (· = ' ')
    let (gap, crossed, c) : Option (List Char) × Bool × Cursor :=
      match c.lineBreak with
      | ([], c) => (if spaces.isEmpty then none else some spaces, false, c)
      | (lineEnd, c) =>
        let (breaks, c) := plainBreaks (c.left + 1) c
        (breaks.map (foldBreaks lineEnd), true, c)
    let more := plainRun inFlow c.rest
    match gap with
    | none => ((run, crossed), c)
    | some gap =>
      if c.peek = '#' ∨ (!inFlow ∧ (c.column : Int) < indent) ∨ more.isEmpty then
        ((run, crossed), c)
      else
        let ((others, crossed), c) := plainContent inFlow indent fuel c
        ((run ++ gap ++ others, crossed), c)

/-- A plain scalar inside a block of the given indentation, with whether a key may follow it. -/
def plainLexeme (inFlow : Bool) (parent : Int) (c : Cursor) : (Token × Bool) × Cursor :=
  let ((cs, crossed), c) := plainContent inFlow (parent + 1) (c.left + 1) c
  ((.scalar (Text.ofChars cs) true, crossed), c)

end KubeJava.Yaml
