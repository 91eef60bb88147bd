import KubeJava.Number.Double
import KubeJava.Text.Digit
import KubeJava.Text.Hex
import KubeJava.Text.Lines

set_option autoImplicit false

/-! # Numerals

Whole numbers and decimals as they are written in text. The decimal digits of all scripts count like
those of ASCII, and blanks may stand around a number. -/

namespace KubeJava.Numeral

/-- The ASCII character that a code point counts as in a number; outside ASCII, what is neither a
blank nor a digit counts as a character that no number has. -/
def plainChar (c : CodePoint) : Char :=
  if c.val < 128 then Char.ofNat c.val
  else if Text.isBlank c then ' '
  else
    match Text.decimalDigit? c with
    | some d => Nat.digitChar d
    | none => '?'

def isSpace (c : Char) : Bool := ('\t' ≤ c && c ≤ '\r') || c == ' '

/-- Whether a minus sign stands in front, and the rest after a sign. -/
def splitSign : List Char → Bool × List Char
  | '-' :: rest => (true, rest)
  | '+' :: rest => (false, rest)
  | cs => (false, cs)

/-! ## Whole numbers -/

inductive WholeFault where
  | notWhole
  /-- There are more digits than a decimal numeral may have. -/
  | tooManyDigits (count : Nat)
  deriving DecidableEq, Repr

/-- The greatest number of digits of a decimal numeral. -/
def maxDigits : Nat := 4300

/-- The letter that announces a base after a zero. -/
def baseLetter? : Nat → Option Char
  | 2 => some 'b'
  | 8 => some 'o'
  | 16 => some 'x'
  | _ => none

def dropBaseMark (base : Nat) : List Char → List Char
  | '0' :: c :: rest =>
    if baseLetter? base = some c.toLower then rest else '0' :: c :: rest
  | cs => cs

/-- The whole number that a text spells in a base. -/
def readWhole (base : Nat) (t : Text) : Except WholeFault Int :=
  let (negative, cs) := splitSign ((t.map plainChar).dropWhile isSpace)
  let cs := dropBaseMark base cs
  let isDigit (c : Char) : Bool := (Text.digitValue? c).any (· < base)
  let digits := cs.takeWhile isDigit
  if base = 10 ∧ maxDigits < digits.length then .error (.tooManyDigits digits.length)
  else
    match Text.readDigits? base digits, (cs.dropWhile isDigit).all isSpace with
    | some n, true => .ok (if negative then -(n : Int) else n)
    | _, _ => .error .notWhole

/-! ## Decimals -/

/-- The value of digits with a point and an exponent, where any of them may be missing. -/
def decimalValue? (negative : Bool) (cs : List Char) : Option Double :=
  let whole := cs.takeWhile Char.isDigit
  let rest := cs.dropWhile Char.isDigit
  let (fraction, rest) := match rest with
    | '.' :: rest => (rest.takeWhile Char.isDigit, rest.dropWhile Char.isDigit)
    | rest => ([], rest)
  let exponent : Option Int := match rest with
    | [] => some 0
    | 'e' :: '-' :: ds => (Text.readDigits? 10 ds).map fun n => -(n : Int)
    | 'e' :: '+' :: ds | 'e' :: ds => (Text.readDigits? 10 ds).map fun n => (n : Int)
    | _ => none
  match Text.readDigits? 10 (whole ++ fraction), exponent with
  | some n, some e => some (.ofDecimal negative n (e - fraction.length))
  | _, _ => none

/-- The number that a text spells: a decimal, or a word for infinity or for what is no number. -/
def readDouble? (t : Text) : Option Double :=
  let trimmed := ((t.map plainChar).dropWhile isSpace).reverse.dropWhile isSpace
  let (negative, cs) := splitSign trimmed.reverse
  let word := cs.map Char.toLower
  if word = "inf".toList ∨ word = "infinity".toList then some (.infinity negative)
  else if word = "nan".toList then some .nan
  else decimalValue? negative word

end KubeJava.Numeral
