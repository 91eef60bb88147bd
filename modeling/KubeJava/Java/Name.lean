import KubeJava.Generation.Error
import KubeJava.Java.Identifier
import KubeJava.Settings
import KubeJava.Text.Lines

set_option autoImplicit false

/-! # Names

How the names of types, fields, packages and enum constants are derived from property keys, API
groups and literals. The words of a text are its maximal runs of ASCII letters and digits; every
derived name is checked before it is given out. -/

namespace KubeJava.Java

/-- The name itself if it is an identifier. -/
def ensureIdentifier (name source : Text) : Except GenerationError Text :=
  if isIdentifier name then .ok name else .error (.invalidIdentifier name source)

/-! ## Words -/

/-- The words of a text, where `word` holds the current one in reverse order. -/
def wordsAux : Text → Text → List Text
  | word, [] => if word.isEmpty then [] else [word.reverse]
  | word, c :: rest =>
    if isWordChar c then wordsAux (c :: word) rest
    else if word.isEmpty then wordsAux [] rest
    else word.reverse :: wordsAux [] rest

/-- The maximal runs of ASCII letters and digits in a text. -/
def words (t : Text) : List Text := wordsAux [] t

/-- A word with its first character in upper case. -/
def capitalizeWord : Text → Text
  | [] => []
  | c :: rest => Text.asciiUpper c :: rest

/-- A keyword is told apart by an underscore after it. -/
def escapeKeyword (name : Text) : Text := if isKeyword name then name ++ "_" else name

def startsWithDigit (t : Text) : Bool :=
  match t with
  | [] => false
  | c :: _ => isAsciiDigit c

/-- The text with an underscore before a digit at its front. -/
def guardDigit (t : Text) : Text := if startsWithDigit t then "_" ++ t else t

/-! ## Types and fields -/

/-- The words of a text, each capitalised, put together. -/
def pascalCase (raw : Text) : Text := (words raw).flatMap capitalizeWord

/-- The name of the type that a property key stands for. -/
def typeName (raw : Text) : Except GenerationError Text := ensureIdentifier (pascalCase raw) raw

/-- The name of the field for a property key. An identifier is taken as it is; otherwise the words
are put together, all but the first capitalised, a digit is kept from the front and a keyword from
the whole by an underscore. -/
def fieldName (raw : Text) : Except GenerationError Text :=
  if isIdentifier raw then .ok raw
  else
    match words raw with
    | [] => .error (.invalidIdentifier [] raw)
    | first :: rest =>
      ensureIdentifier (escapeKeyword (guardDigit (first ++ rest.flatMap capitalizeWord))) raw

/-! ## Packages -/

/-- The package segment for the children of a type. -/
def packageSegment (bareName : Text) : Except GenerationError Text :=
  ensureIdentifier (escapeKeyword bareName.lower) bareName

/-- A label of a group in lower case, without the characters that no segment has. -/
def groupSegment (label : Text) : Text := escapeKeyword (label.lower.filter isWordChar)

/-- The package for an API group: its labels in reverse order. -/
def packageForGroup (group : Text) : Except GenerationError Text := do
  let labels := group.dotParts.filter (· ≠ [])
  let segments ← (labels.reverse.map groupSegment).mapM fun s => ensureIdentifier s group
  return ("." : Text).intercalate segments

/-- A name inside a package; the empty package counts as none. -/
def qualify (package : Option Text) (name : Text) : Text :=
  match package with
  | none => name
  | some p => if p = "" then name else p ++ "." ++ name

section Qualify

variable {package : Option Text} {p name : Text}

@[simp] theorem qualify_none : qualify none name = name := rfl

@[simp] theorem qualify_nil : qualify (some []) name = name := rfl

@[simp] theorem qualify_of_ne_nil (h : p ≠ []) :
    qualify (some p) name = p ++ ('.' : CodePoint) :: name := by
  rw [qualify]
  simp only [Text.ofString, Text.ofChars, String.toList_empty, List.map_nil, if_neg h]
  simp

@[simp] theorem qualify_ne_nil (h : name ≠ []) : qualify package name ≠ [] := by
  rcases package with _ | _ | ⟨c, rest⟩ <;> simp [h]

end Qualify

/-! ## Enum constants -/

def isConstantChar (c : CodePoint) : Bool := isWordChar c || c == '_' || c == '$'

/-- Each run of characters that no constant has becomes one underscore; `inRun` tells whether the
character before was one of them. -/
def sanitizeAux : (inRun : Bool) → Text → Text
  | _, [] => []
  | inRun, c :: rest =>
    if isConstantChar c then c :: sanitizeAux false rest
    else if inRun then sanitizeAux true rest
    else '_' :: sanitizeAux true rest

def sanitizeConstant (t : Text) : Text := sanitizeAux false t

/-- The identifier of the constant for a literal. -/
def enumConstant (literal : Text) (uppercase : Bool) : Except GenerationError Text :=
  let cased := if uppercase then literal.upper else literal
  let name := guardDigit (sanitizeConstant cased)
  if name.isEmpty then .error (.invalidIdentifier [] literal)
  else ensureIdentifier (escapeKeyword name) literal

/-! ## Affixes -/

/-- The text put around the bare names of types. -/
structure Affixes where
  before : Text := ""
  after : Text := ""
  deriving DecidableEq, Repr

/-- The bare name with the affixes that the policies give it. -/
def decorate (affixes : Affixes) (settings : Settings) (topLevel : Bool) (bareName : Text) : Text :=
  (if settings.prefixPolicy.applies topLevel then affixes.before else []) ++ bareName ++
    (if settings.suffixPolicy.applies topLevel then affixes.after else [])

/-- The decorated name of a type. -/
def applyAffixes (affixes : Affixes) (settings : Settings) (topLevel : Bool) (bareName : Text) :
    Except GenerationError Text :=
  ensureIdentifier (decorate affixes settings topLevel bareName) bareName

/-! ## Numbering -/

/-- The first number from `n` on whose candidate is free, tried at most `fuel` times. -/
def firstFree (candidate : Nat → Text) (used : List Text) : (fuel n : Nat) → Text
  | 0, n => candidate n
  | fuel + 1, n =>
    if used.contains (candidate n) then firstFree candidate used fuel (n + 1) else candidate n

/-- The candidate if it is free, and otherwise the candidate with an underscore and the least number
from 2 on that makes it free. Among one more candidates than there are used names one is free. -/
def uniqueName (candidate : Text) (used : List Text) : Text :=
  if used.contains candidate then
    firstFree (fun n => candidate ++ "_" ++ Text.decimal n) used used.length 2
  else candidate

end KubeJava.Java
