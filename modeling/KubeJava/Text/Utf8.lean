import KubeJava.Text.Basic

set_option autoImplicit false

/-! # UTF-8 in pieces

Decoding UTF-8 byte by byte, so that text may arrive in pieces. A byte is refused as soon as no
character can go on with it; what is left over at the end of a piece is kept for the next one. -/

namespace KubeJava.Text.Utf8

/-- A character of which some bytes have been read: the bits they gave, how many bytes are owed, and
the range of the next one. -/
structure Unfinished where
  bits : Nat
  owed : Nat
  least : Nat := 0x80
  greatest : Nat := 0xbf
  deriving DecidableEq, Repr

/-- What a first byte of more than one begins. The range of the byte after it leaves out longer
spellings than needed, surrogates, and numbers that no code point has. -/
def begin? (b : Nat) : Option Unfinished :=
  if b < 0xc2 then none
  else if b < 0xe0 then some { bits := b - 0xc0, owed := 1 }
  else if b = 0xe0 then some { bits := 0, owed := 2, least := 0xa0 }
  else if b = 0xed then some { bits := 0xd, owed := 2, greatest := 0x9f }
  else if b < 0xf0 then some { bits := b - 0xe0, owed := 2 }
  else if b = 0xf0 then some { bits := 0, owed := 3, least := 0x90 }
  else if b < 0xf4 then some { bits := b - 0xf0, owed := 3 }
  else if b = 0xf4 then some { bits := 4, owed := 3, greatest := 0x8f }
  else none

/-- What has been decoded: the characters, the last one first, and one that is unfinished. -/
structure Decoded where
  reversed : List Char := []
  unfinished : Option Unfinished := none

/-- One more byte; nothing if it cannot stand there. -/
def Decoded.push (d : Decoded) (b : UInt8) : Option Decoded :=
  let n := b.toNat
  match d.unfinished with
  | none =>
    if n < 0x80 then some { d with reversed := Char.ofNat n :: d.reversed }
    else (begin? n).map fun u => { d with unfinished := some u }
  | some u =>
    if n < u.least || u.greatest < n then none
    else
      let bits := u.bits * 64 + (n - 0x80)
      if u.owed ≤ 1 then some { reversed := Char.ofNat bits :: d.reversed }
      else some { d with unfinished := some { bits, owed := u.owed - 1 } }

/-- The characters of a piece of text after an unfinished one, and the one unfinished at its end. -/
def decodePiece (unfinished : Option Unfinished) (bytes : List UInt8) :
    Option (List Char × Option Unfinished) := do
  let d ← bytes.foldlM Decoded.push { unfinished }
  return (d.reversed.reverse, d.unfinished)

end KubeJava.Text.Utf8
