import KubeJava.Proofs.Literals

set_option autoImplicit false

/-! # Unicode escapes in sources

Before anything else is read from a Java source, its Unicode escapes are translated into the units of
UTF-16 that they name. A backslash begins one if a `u` follows it and an even number of backslashes
stands directly before it; more letters `u` may follow, and then four hexadecimal digits have to. What
an escape gives takes no part in another one. -/

namespace KubeJava.Java

/-! ## Translation -/

/-- The value of a hexadecimal digit, with letters in either case. -/
def hexValue? (c : CodePoint) : Option Nat := c.toChar?.bind Text.digitValue?

/-- Where the translation of a source stands. -/
inductive EscapeState where
  /-- Outside escapes, after an odd or an even number of backslashes. -/
  | outside (odd : Bool)
  /-- After the backslash of an escape and some of its letters. -/
  | marked
  /-- After some digits of an escape, which spell the given number. -/
  | digits (count value : Nat)

/-- The units of a source, from a state on, unless an escape is malformed. -/
def translateFrom : EscapeState → Text → Option (List Nat)
  | .outside _, [] => some []
  | .outside odd, c :: rest =>
    if c ≠ '\\' then (translateFrom (.outside false) rest).map (utf16Units c ++ ·)
    else if odd = false ∧ rest.head? = some 'u' then translateFrom .marked rest
    else (translateFrom (.outside !odd) rest).map (utf16Units c ++ ·)
  | .marked, [] => none
  | .marked, c :: rest =>
    if c = 'u' then translateFrom .marked rest
    else (hexValue? c).bind fun d => translateFrom (.digits 1 d) rest
  | .digits _ _, [] => none
  | .digits count value, c :: rest =>
    (hexValue? c).bind fun d =>
      if count = 3 then (translateFrom (.outside false) rest).map ((value * 16 + d) :: ·)
      else translateFrom (.digits (count + 1) (value * 16 + d)) rest

/-- The units of a source once its escapes are translated, unless one is malformed. -/
def translate (source : Text) : Option (List Nat) := translateFrom (.outside false) source

/-! ## Pieces of a source -/

@[simp] theorem translate_nil : translate [] = some [] := rfl

theorem hexValue?_hexDigit : ∀ d < 16, hexValue? (Text.hexDigit d) = some d := by decide

theorem hexDigit_ne_marker : ∀ d < 16, Text.hexDigit d ≠ ('u' : CodePoint) := by decide

@[simp] theorem translate_cons_of_ne {c : CodePoint} (h : c ≠ ('\\' : CodePoint)) (rest : Text) :
    translate (c :: rest) = (translate rest).map (utf16Units c ++ ·) := by
  rw [translate, translateFrom, if_pos h]
  rfl

/-- A backslash before another character than `u` stands for itself, and so does that character, a
second backslash included. -/
theorem translate_pair {letter : CodePoint} (h : letter ≠ ('u' : CodePoint)) (rest : Text) :
    translate (('\\' : CodePoint) :: letter :: rest) =
      (translate rest).map (([0x5c] ++ utf16Units letter) ++ ·) := by
  have hfirst : translate (('\\' : CodePoint) :: letter :: rest) =
      (translateFrom (.outside true) (letter :: rest)).map ([0x5c] ++ ·) := by
    rw [translate, translateFrom, if_neg (by simp), if_neg (by simp [h])]
    rfl
  have hsecond : translateFrom (.outside true) (letter :: rest) =
      (translate rest).map (utf16Units letter ++ ·) := by
    rw [translateFrom]
    by_cases hletter : letter = ('\\' : CodePoint)
    · rw [if_neg (by simp [hletter]), if_neg (by simp)]
      rfl
    · rw [if_pos hletter]
      rfl
  rw [hfirst, hsecond, Option.map_map]
  rfl

/-- The escape of a unit is translated into it. -/
@[simp] theorem translate_unitEscape {unit : Nat} (h : unit < 0x10000) (rest : Text) :
    translate (unitEscape unit ++ rest) = (translate rest).map (unit :: ·) := by
  have hdigit : ∀ n, hexValue? (Text.hexDigit (n % 16)) = some (n % 16) := fun n =>
    hexValue?_hexDigit _ (Nat.mod_lt n (by decide))
  have hmarker : ∀ n, Text.hexDigit (n % 16) ≠ ('u' : CodePoint) := fun n =>
    hexDigit_ne_marker _ (Nat.mod_lt n (by decide))
  have hvalue : ((unit / 16 / 16 / 16 % 16 * 16 + unit / 16 / 16 % 16) * 16 + unit / 16 % 16) * 16 +
      unit % 16 = unit := by omega
  have hescape : unitEscape unit = [('\\' : CodePoint), ('u' : CodePoint),
      Text.hexDigit (unit / 16 / 16 / 16 % 16), Text.hexDigit (unit / 16 / 16 % 16),
      Text.hexDigit (unit / 16 % 16), Text.hexDigit (unit % 16)] := rfl
  rw [hescape]
  simp [translate, translateFrom, hdigit, hmarker, hvalue]

/-- A second backslash keeps the first from beginning an escape; a second `u` does not. -/
example : translate "\\\\u0041 \\uu0041" =
    some [0x5c, 0x5c, 0x75, 0x30, 0x30, 0x34, 0x31, 0x20, 0x41] := by decide

end KubeJava.Java
