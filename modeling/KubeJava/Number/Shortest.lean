import KubeJava.Number.Double
import KubeJava.Text.Hex

set_option autoImplicit false

/-! # Shortest decimals

The fewest digits that read back as the same double. The numbers that round to a double form an
interval around it, whose ends count when the significand is even; for one digit, two digits and so
on, the two neighbours of the double on that decimal grid are tried, and the first grid with a
neighbour in the interval gives the digits. All arithmetic is exact. -/

namespace KubeJava

/-- A positive fraction. -/
structure Fraction where
  num : Nat
  den : Nat

/-- `n * 2 ^ e`. -/
def Fraction.binary (n : Nat) (e : Int) : Fraction :=
  if 0 ≤ e then ⟨n * Nat.pow 2 e.toNat, 1⟩ else ⟨n, Nat.pow 2 (-e).toNat⟩

/-- `n * 10 ^ e`. -/
def Fraction.decimal (n : Nat) (e : Int) : Fraction :=
  if 0 ≤ e then ⟨n * Nat.pow 10 e.toNat, 1⟩ else ⟨n, Nat.pow 10 (-e).toNat⟩

def Fraction.lt (a b : Fraction) : Bool := a.num * b.den < b.num * a.den

def Fraction.le (a b : Fraction) : Bool := a.num * b.den ≤ b.num * a.den

/-- The distance between two fractions. -/
def Fraction.gap (a b : Fraction) : Fraction :=
  ⟨(a.num * b.den - b.num * a.den) + (b.num * a.den - a.num * b.den), a.den * b.den⟩

/-- The least `k` with `x < 10 ^ k`, for the magnitudes of doubles. -/
def Fraction.magnitude (x : Fraction) : Int :=
  if x.den ≤ x.num then (Nat.toDigits 10 (x.num / x.den)).length
  else
    match (List.range 400).find? fun j => x.den ≤ x.num * Nat.pow 10 j with
    | some j => 1 - (j : Int)
    | none => -400

namespace Double

/-! ## The interval of a double -/

def value (d : Double) : Fraction := Fraction.binary (4 * d.significand) (d.exponent - 2)

/-- The lower end lies half a step below, or a quarter where the step below is half as wide. -/
def lowerEnd (d : Double) : Fraction :=
  let step := if d.fraction = 0 ∧ 1 < d.biasedExponent then 1 else 2
  Fraction.binary (4 * d.significand - step) (d.exponent - 2)

def upperEnd (d : Double) : Fraction := Fraction.binary (4 * d.significand + 2) (d.exponent - 2)

def roundsTo (d : Double) (x : Fraction) : Bool :=
  if d.significand % 2 = 0 then d.lowerEnd.le x && x.le d.upperEnd
  else d.lowerEnd.lt x && x.lt d.upperEnd

/-! ## Digits -/

/-- The best multiple of `10 ^ e` that reads back: of the two neighbours the nearer one, of two
equally near the even one. -/
def onGrid? (d : Double) (e : Int) : Option Nat :=
  let v := d.value
  let unit := Fraction.decimal 1 e
  let below := v.num * unit.den / (v.den * unit.num)
  let above := below + 1
  let fits (n : Nat) : Bool := n ≠ 0 && d.roundsTo (Fraction.decimal n e)
  match fits below, fits above with
  | false, false => none
  | true, false => some below
  | false, true => some above
  | true, true =>
    let gapBelow := v.gap (Fraction.decimal below e)
    let gapAbove := v.gap (Fraction.decimal above e)
    if gapBelow.lt gapAbove then some below
    else if gapAbove.lt gapBelow then some above
    else some (if below % 2 = 0 then below else above)

/-- The digits of a positive finite double and the place of its point: the value is the digits
after `0.`, times ten to that place. -/
def shortest (d : Double) : List Char × Int :=
  let k := d.value.magnitude
  match (List.range 17).findSome? fun i =>
      (d.onGrid? (k - (i + 1 : Nat))).map fun n => (n, k - ((i + 1 : Nat) : Int)) with
  | some (n, e) =>
    let digits := Nat.toDigits 10 n
    let kept := (digits.reverse.dropWhile (· = '0')).reverse
    (kept, digits.length + e)
  | none => (['0'], 1)

end Double

/-! ## Text -/

/-- How a format writes a number from its digits. -/
structure NumberLayout where
  /-- The least place of the point, counted from the first digit, that is written positionally. -/
  leastPoint : Int
  /-- The greatest such place. -/
  greatestPoint : Int
  /-- The least number of digits of a written exponent. -/
  exponentWidth : Nat
  infinityText : Text
  nanText : Text

/-- Digits with a point at the given place; a whole number ends in `.0`. -/
def positionalText (digits : List Char) (point : Int) : Text :=
  if point ≤ 0 then "0." ++ Text.ofChars (List.replicate (-point).toNat '0' ++ digits)
  else
    let n := point.toNat
    if digits.length ≤ n then
      Text.ofChars (digits ++ List.replicate (n - digits.length) '0') ++ ".0"
    else Text.ofChars (digits.take n) ++ "." ++ Text.ofChars (digits.drop n)

def scientificText (layout : NumberLayout) (digits : List Char) (point : Int) : Text :=
  let tail := Text.ofChars (digits.drop 1)
  let fraction : Text := if tail.isEmpty then "" else "." ++ tail
  let exponent := point - 1
  Text.ofChars (digits.take 1) ++ fraction ++ (if exponent < 0 then "e-" else "e+") ++
    Text.decimalPadded layout.exponentWidth exponent.natAbs

def NumberLayout.text (layout : NumberLayout) (d : Double) : Text :=
  if d.isNaN then layout.nanText
  else
    (if d.isNegative then "-" else "") ++
      if d.isInfinite then layout.infinityText
      else if d.significand = 0 then "0.0"
      else
        let (digits, point) := d.shortest
        if layout.leastPoint ≤ point ∧ point ≤ layout.greatestPoint then
          positionalText digits point
        else scientificText layout digits point

end KubeJava
