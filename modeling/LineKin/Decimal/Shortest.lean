import LineKin.Decimal.Binary

/-!
# The shortest decimal of a binary fraction

Of the decimals that are read back as a given binary fraction, `shortest` finds the one with the
fewest digits, and of several such the nearest. A decimal is read back as the fraction when it lies
between the middles to the two neighbouring fractions; the middles belong to it when the mantissa is
even. Because a grid of decimals that meets this interval does so next to the fraction, only the two
neighbours of the fraction on each grid are tried.

`Style` says how the digits are written out.
-/

namespace LineKin.Decimal

/-- Decimal digits and the power of ten that the last of them counts. -/
structure Digits where
  /-- The digits as a number. -/
  value : Nat
  /-- The power of ten of the last digit. -/
  exponent : Int
  deriving DecidableEq

/-- A positive fraction and the middles to its neighbours, as multiples of a common unit `num / den`. -/
structure Interval where
  /-- The middle below. -/
  low : Nat
  /-- The fraction. -/
  centre : Nat
  /-- The middle above. -/
  high : Nat
  /-- How many units make one. -/
  den : Nat
  /-- Whether the middles belong to the interval. -/
  closed : Bool

namespace Interval

/-- The interval of a positive fraction. Below a power of two the neighbours are half as far. -/
def of (b : Binary) : Interval :=
  let scale := if 0 ≤ b.exponent then Nat.pow 2 b.exponent.toNat else 1
  let den := if 0 ≤ b.exponent then 4 else 4 * Nat.pow 2 (-b.exponent).toNat
  let below := if b.mantissa = Nat.pow 2 52 && Binary.leastExponent < b.exponent then 1 else 2
  { low := (4 * b.mantissa - below) * scale
    centre := 4 * b.mantissa * scale
    high := (4 * b.mantissa + 2) * scale
    den := den
    closed := b.mantissa % 2 == 0 }

/-- Whether a ratio lies in the interval. -/
def holds (i : Interval) (num den : Nat) : Bool :=
  if i.closed then i.low * den ≤ num * i.den && num * i.den ≤ i.high * den
  else i.low * den < num * i.den && num * i.den < i.high * den

end Interval

/-- `value · 10 ^ exponent` as a ratio. -/
def Digits.ratio (d : Digits) : Nat × Nat :=
  if 0 ≤ d.exponent then (d.value * Nat.pow 10 d.exponent.toNat, 1)
  else (d.value, Nat.pow 10 (-d.exponent).toNat)

/-- The neighbours of an interval's centre among the multiples of a power of ten that lie in the
interval; the nearer one if both do, and of two equally near ones the even one. -/
def onGrid (i : Interval) (exponent : Int) : Option Digits :=
  let num := if 0 ≤ exponent then i.centre else i.centre * Nat.pow 10 (-exponent).toNat
  let den := if 0 ≤ exponent then i.den * Nat.pow 10 exponent.toNat else i.den
  let below : Digits := ⟨num / den, exponent⟩
  let above : Digits := ⟨num / den + 1, exponent⟩
  let fits (d : Digits) : Bool := d.value != 0 && i.holds d.ratio.1 d.ratio.2
  let nearer := if Binary.roundedQuotient num den = num / den then below else above
  if fits nearer then some nearer
  else if fits below then some below
  else if fits above then some above
  else none

/-- The greatest power of ten that is not above a ratio, searched from an estimate upwards. -/
def magnitudeFrom : Nat → Int → Nat → Nat → Int
  | 0, guess, _, _ => guess
  | steps + 1, guess, num, den =>
    let next : Digits := ⟨1, guess + 1⟩
    if next.ratio.1 * den ≤ num * next.ratio.2 then magnitudeFrom steps (guess + 1) num den
    else guess

/-- The greatest power of ten that is not above a positive fraction. -/
def magnitude (b : Binary) : Int :=
  let (num, den) := b.ratio
  let bits : Int := (num.log2 : Int) - (den.log2 : Int)
  magnitudeFrom 4 (bits * 30103 / 100000 - 2) num den

/-- The fewest digits that are read back as a fraction. -/
def shortest (b : Binary) : Digits :=
  if b.mantissa = 0 then ⟨0, 0⟩
  else
    let i := Interval.of b
    let top := magnitude b
    let found := (List.range 18).findSome? fun (n : Nat) => onGrid i (top - n)
    found.getD ⟨b.mantissa, 0⟩

/-- How a decimal is written. -/
structure Style where
  /-- The least magnitude that is written without a power of ten. -/
  leastPlain : Int
  /-- The greatest magnitude that is written without a power of ten. -/
  greatestPlain : Int

/-- Zeros. -/
def zeros (n : Nat) : String := String.ofList (List.replicate n '0')

/-- Digits written in a style, with a point and at least one digit on either side of it, unless a
power of ten follows. -/
def Digits.write (style : Style) (d : Digits) : String :=
  -- zeros at the end are no digits
  let digits := (((toString d.value).toList.reverse.dropWhile (· == '0')).reverse)
  let size := (toString d.value).length
  let magnitude : Int := d.exponent + (size : Int) - 1
  if digits.isEmpty then "0.0"
  else if style.leastPlain ≤ magnitude && magnitude ≤ style.greatestPlain then
    if magnitude < 0 then "0." ++ zeros ((-magnitude).toNat - 1) ++ String.ofList digits
    else
      let whole := magnitude.toNat + 1
      let fraction := digits.drop whole
      String.ofList (digits.take whole) ++ zeros (whole - digits.length) ++ "." ++
        (if fraction.isEmpty then "0" else String.ofList fraction)
  else
    let fraction := digits.drop 1
    String.ofList (digits.take 1) ++
      (if fraction.isEmpty then "" else "." ++ String.ofList fraction) ++
      "e" ++ (if magnitude < 0 then "-" else "+") ++ toString magnitude.natAbs

end LineKin.Decimal
