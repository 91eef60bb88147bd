import KubeJava.Text.Basic

set_option autoImplicit false

/-! # Hexadecimal and decimal digits

Fixed-width lower-case hexadecimal, as escapes use it, decimal text of naturals and integers, and
the reading of digits in any base up to sixteen. -/

namespace KubeJava.Text

def hexDigit (n : Nat) : CodePoint := ("0123456789abcdef" : Text).getD n '0'

/-- The last `width` hexadecimal digits of a number. -/
def hexFixed : Nat → Nat → Text
  | 0, _ => []
  | width + 1, n => hexFixed width (n / 16) ++ [hexDigit (n % 16)]

@[simp] theorem length_hexFixed (width n : Nat) : (hexFixed width n).length = width := by
  induction width generalizing n with
  | zero => rfl
  | succ width ih => simp [hexFixed, ih]

/-- The value of a digit, for letters up to `f` in either case. -/
def digitValue? (c : Char) : Option Nat :=
  if '0' ≤ c ∧ c ≤ '9' then some (c.toNat - '0'.toNat)
  else if 'a' ≤ c ∧ c ≤ 'f' then some (c.toNat - 'a'.toNat + 10)
  else if 'A' ≤ c ∧ c ≤ 'F' then some (c.toNat - 'A'.toNat + 10)
  else none

/-- The number that digits spell in a base, read from the left; no digits spell no number. -/
def readDigits? (base : Nat) (cs : List Char) : Option Nat :=
  if cs.isEmpty then none
  else cs.foldl (fun acc c => do
    let n ← acc
    let d ← digitValue? c
    if d < base then pure (n * base + d) else none) (some 0)

/-- The decimal digits of a number. -/
def decimal (n : Nat) : Text := ofChars (Nat.toDigits 10 n)

/-- Decimal text, with a sign for negative numbers only. -/
def decimalInt (n : Int) : Text := if n < 0 then "-" ++ decimal n.natAbs else decimal n.natAbs

/-- Decimal digits, filled up with zeros from the left. -/
def decimalPadded (width n : Nat) : Text :=
  let digits := decimal n
  List.replicate (width - digits.length) ('0' : CodePoint) ++ digits

end KubeJava.Text
