set_option autoImplicit false

/-! # Double-precision numbers

Numbers are held by their 64 bits, so that two of them can be told apart by a decidable equality.
Reading a decimal rounds to the nearest double. -/

namespace KubeJava

/-- A binary64 number, given by its bits. -/
structure Double where
  bits : UInt64
  deriving DecidableEq, Repr

namespace Double

def ofFloat (x : Float) : Double := ⟨x.toBits⟩

def toFloat (d : Double) : Float := Float.ofBits d.bits

def infinity (negative : Bool) : Double :=
  ⟨if negative then 0xfff0000000000000 else 0x7ff0000000000000⟩

/-- What is no number. -/
def nan : Double := ⟨0x7ff8000000000000⟩

/-! ## Parts -/

def isNegative (d : Double) : Bool := d.bits.toNat / 0x8000000000000000 = 1

def biasedExponent (d : Double) : Nat := d.bits.toNat / 0x10000000000000 % 0x800

def fraction (d : Double) : Nat := d.bits.toNat % 0x10000000000000

def isNaN (d : Double) : Bool := d.biasedExponent = 2047 && d.fraction ≠ 0

def isInfinite (d : Double) : Bool := d.biasedExponent = 2047 && d.fraction = 0

def isFinite (d : Double) : Bool := d.biasedExponent ≠ 2047

/-- A finite number is its sign times `significand * 2 ^ exponent`. -/
def significand (d : Double) : Nat :=
  if d.biasedExponent = 0 then d.fraction else 0x10000000000000 + d.fraction

def exponent (d : Double) : Int := (max d.biasedExponent 1 : Nat) - 1075

/-- The value of a number without fractional part. -/
def toInt? (d : Double) : Option Int :=
  if !d.isFinite then none
  else
    let sign : Int := if d.isNegative then -1 else 1
    if 0 ≤ d.exponent then some (sign * (d.significand * Nat.pow 2 d.exponent.toNat : Nat))
    else
      let unit := Nat.pow 2 (-d.exponent).toNat
      if d.significand % unit = 0 then some (sign * (d.significand / unit : Nat)) else none

/-! ## Reading decimals -/

/-- The double nearest to `mantissa * 10 ^ exponent`. Magnitudes beyond all doubles are recognised
by their number of digits, so that no large power is computed for them. -/
def ofDecimal (negative : Bool) (mantissa : Nat) (exponent : Int) : Double :=
  let digits : Int := (Nat.toDigits 10 mantissa).length
  let magnitude : Float :=
    if mantissa = 0 ∨ digits + exponent < -400 then 0
    else if 400 < digits + exponent then Float.ofBits 0x7ff0000000000000
    else Float.ofScientific mantissa (exponent < 0) exponent.natAbs
  ofFloat (if negative then -magnitude else magnitude)

end Double

end KubeJava
