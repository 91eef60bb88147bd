import KubeJava.Text.Basic

set_option autoImplicit false

/-! # Base 64

Bytes in base 64: four characters of the alphabet give three bytes. A group that ends early is
filled up with equals signs, and the first group that is filled up ends the reading. Equals signs
elsewhere and characters outside the alphabet are passed over. -/

namespace KubeJava.Text.Base64

def sextetOf? (c : Char) : Option Nat :=
  if 'A' ≤ c ∧ c ≤ 'Z' then some (c.toNat - 'A'.toNat)
  else if 'a' ≤ c ∧ c ≤ 'z' then some (c.toNat - 'a'.toNat + 26)
  else if c.isDigit then some (c.toNat - '0'.toNat + 52)
  else if c = '+' then some 62
  else if c = '/' then some 63
  else none

/-- A group of characters that is being read. -/
structure Group where
  /-- How many characters of it have been read. -/
  count : Nat := 0
  /-- The bits that no byte has taken yet. -/
  bits : Nat := 0
  /-- The equals signs since the last character of the alphabet. -/
  fillers : Nat := 0

/-- The group after one more character of the alphabet, and the byte that it completes. -/
def Group.push (g : Group) (sextet : Nat) : Group × List UInt8 :=
  match g.count with
  | 0 => ({ count := 1, bits := sextet }, [])
  | 1 => ({ count := 2, bits := sextet % 16 }, [UInt8.ofNat (g.bits * 4 + sextet / 16)])
  | 2 => ({ count := 3, bits := sextet % 4 }, [UInt8.ofNat (g.bits * 16 + sextet / 4)])
  | _ => ({}, [UInt8.ofNat (g.bits * 64 + sextet)])

/-- The bytes of the characters after a part of a group; nothing if the last group is not filled
up. -/
def decodeFrom (g : Group) : List Char → Option (List UInt8)
  | [] => if g.count = 0 then some [] else none
  | c :: rest =>
    if c = '=' then
      if 2 ≤ g.count then
        let fillers := g.fillers + 1
        if 4 ≤ g.count + fillers then some [] else decodeFrom { g with fillers } rest
      else decodeFrom g rest
    else
      match sextetOf? c with
      | none => decodeFrom g rest
      | some sextet =>
        let (g, bytes) := g.push sextet
        (decodeFrom g rest).map (bytes ++ ·)

def decode (cs : List Char) : Option (List UInt8) := decodeFrom {} cs

end KubeJava.Text.Base64
