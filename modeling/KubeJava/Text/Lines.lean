import KubeJava.Text.Basic

set_option autoImplicit false

/-! # Blanks and line breaks

Trimming and splitting into lines. Blanks are the Unicode white space together with the four
information separators; ten characters and the pair carriage return, line feed end a line. -/

namespace KubeJava.Text

/-! ## Trimming -/

def isBlank (c : CodePoint) : Bool :=
  let n := c.val
  (0x9 ≤ n && n ≤ 0xd) || (0x1c ≤ n && n ≤ 0x20) || n == 0x85 || n == 0xa0 || n == 0x1680 ||
    (0x2000 ≤ n && n ≤ 0x200a) || n == 0x2028 || n == 0x2029 || n == 0x202f || n == 0x205f ||
    n == 0x3000

/-- The text without the blanks at its end. -/
def trimEnd (t : Text) : Text := (t.reverse.dropWhile isBlank).reverse

/-- The text without the blanks at its ends. -/
def trim (t : Text) : Text := trimEnd (t.dropWhile isBlank)

/-! ## Lines -/

def isLineBreak (c : CodePoint) : Bool :=
  let n := c.val
  (0xa ≤ n && n ≤ 0xd) || (0x1c ≤ n && n ≤ 0x1e) || n == 0x85 || n == 0x2028 || n == 0x2029

/-- The lines of a text, where `line` holds the current line in reverse order. A break ends the line
before it, so nothing follows a break that ends the text. -/
def splitLinesAux : Text → Text → List Text
  | line, [] => if line.isEmpty then [] else [line.reverse]
  | line, [c] => [if isLineBreak c then line.reverse else (c :: line).reverse]
  | line, c :: d :: rest =>
    if c = '\r' ∧ d = '\n' then line.reverse :: splitLinesAux [] rest
    else if isLineBreak c then line.reverse :: splitLinesAux [] (d :: rest)
    else splitLinesAux (c :: line) (d :: rest)

def splitLines (t : Text) : List Text := splitLinesAux [] t

/-- The text without one line feed at its end, if there is one. -/
def dropFinalLineFeed (t : Text) : Text :=
  if t.getLast? = some ('\n' : CodePoint) then t.dropLast else t

/-! ## Splitting and joining at a separator -/

/-- The parts of a list between the occurrences of a separator, empty parts included. -/
def partsAt {α : Type} [DecidableEq α] (sep : α) : List α → List (List α)
  | [] => [[]]
  | c :: rest =>
    if c = sep then [] :: partsAt sep rest
    else
      match partsAt sep rest with
      | [] => [[c]]
      | part :: parts => (c :: part) :: parts

@[simp] theorem partsAt_ne_nil {α : Type} [DecidableEq α] (sep : α) (cs : List α) :
    partsAt sep cs ≠ [] := by
  cases cs with
  | nil => simp [partsAt]
  | cons c rest =>
    simp only [partsAt]
    split
    · simp
    · split <;> simp

/-- Splitting loses nothing: the parts joined by the separator are the list. -/
@[simp] theorem intercalate_partsAt {α : Type} [DecidableEq α] (sep : α) (cs : List α) :
    [sep].intercalate (partsAt sep cs) = cs := by
  induction cs with
  | nil => rfl
  | cons c rest ih =>
    simp only [partsAt]
    cases hs : partsAt sep rest with
    | nil => exact absurd hs (partsAt_ne_nil sep rest)
    | cons part parts =>
      rw [hs] at ih
      by_cases h : c = sep
      · subst h
        simp [List.intercalate] at ih ⊢
        exact ih
      · cases parts <;> simp_all [List.intercalate, List.intersperse]

/-- Parts with commas between them. -/
def commaSeparated (parts : List Text) : Text := (", " : Text).intercalate parts

/-- The dot-separated parts of a text. -/
def dotParts (t : Text) : List Text := partsAt '.' t

end KubeJava.Text
