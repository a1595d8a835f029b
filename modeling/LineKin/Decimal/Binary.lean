/-!
# Binary fractions

A `Binary` is a fraction `mantissa · 2 ^ exponent` with a mantissa of at most 53 bits, as doubles
are. `nearest` rounds a ratio to such a fraction: the nearest one, and of two equally near ones the
one with the even mantissa. The product and the quotient of two fractions are rounded in the same
way.
-/

namespace LineKin.Decimal

/-- A fraction `mantissa · 2 ^ exponent`. A mantissa of less than 53 bits comes with the least
exponent. -/
structure Binary where
  /-- The mantissa, below `2 ^ 53`. -/
  mantissa : Nat
  /-- The exponent, at least `-1074`. -/
  exponent : Int
  deriving DecidableEq

namespace Binary

/-- The least exponent. -/
def leastExponent : Int := -1074

/-- The greatest exponent. -/
def greatestExponent : Int := 971

/-- Zero. -/
def zero : Binary := ⟨0, leastExponent⟩

/-- The fraction as a ratio of natural numbers. -/
def ratio (b : Binary) : Nat × Nat :=
  if 0 ≤ b.exponent then (b.mantissa * Nat.pow 2 b.exponent.toNat, 1)
  else (b.mantissa, Nat.pow 2 (-b.exponent).toNat)

/-- The quotient of two numbers to the nearest whole number, of two to the even one. -/
def roundedQuotient (num den : Nat) : Nat :=
  let q := num / den
  let twice := 2 * (num % den)
  if den < twice || (den == twice && q % 2 == 1) then q + 1 else q

/-- The exponent at which a positive ratio has a mantissa of 53 bits, or one more. -/
def exponentFor (num den : Nat) : Int :=
  let guess : Int := (num.log2 : Int) - (den.log2 : Int) - 52
  let scaled :=
    if 0 ≤ guess then (num, den * Nat.pow 2 guess.toNat) else (num * Nat.pow 2 (-guess).toNat, den)
  if scaled.1 < Nat.pow 2 52 * scaled.2 then guess - 1 else guess

/-- The fraction nearest to a ratio with a positive denominator, if it is not too large. -/
def nearest (num den : Nat) : Option Binary :=
  if num = 0 then some zero
  else
    let e := max leastExponent (exponentFor num den)
    let m :=
      if 0 ≤ e then roundedQuotient num (den * Nat.pow 2 e.toNat)
      else roundedQuotient (num * Nat.pow 2 (-e).toNat) den
    let rounded : Binary := if m = Nat.pow 2 53 then ⟨Nat.pow 2 52, e + 1⟩ else ⟨m, e⟩
    if rounded.exponent ≤ greatestExponent then some rounded else none

/-- The rounded product. -/
def times (a b : Binary) : Option Binary :=
  nearest (a.ratio.1 * b.ratio.1) (a.ratio.2 * b.ratio.2)

/-- The rounded quotient by a fraction that is not zero. -/
def quotient (a b : Binary) : Option Binary :=
  nearest (a.ratio.1 * b.ratio.2) (a.ratio.2 * b.ratio.1)

/-- The fraction nearest to a power of ten. -/
def powerOfTen (n : Nat) : Binary := (nearest (Nat.pow 10 n) 1).getD zero

/-- The fraction for `digits · 10 ^ exponent` in two rounded steps: the digits, then the product
with the power of ten, or the quotient if the exponent is negative. A quotient by more than the
greatest power of ten is taken in several steps, at most `steps` of them. -/
def scaleBy : Nat → Binary → Int → Option Binary
  | 0, _, _ => some zero
  | steps + 1, digits, exponent =>
    if digits = zero then some zero
    else if 308 < exponent then none
    else if 0 ≤ exponent then digits.times (powerOfTen exponent.toNat)
    else if -308 ≤ exponent then digits.quotient (powerOfTen (-exponent).toNat)
    else
      match digits.quotient (powerOfTen 308) with
      | some rest => scaleBy steps rest (exponent + 308)
      | none => none

/-- The fraction that decimal digits and an exponent are read as, if it is not too large. -/
def ofDecimal (digits : Nat) (exponent : Int) : Option Binary :=
  match nearest digits 1 with
  | some digits => scaleBy 4 digits exponent
  | none => none

end Binary

end LineKin.Decimal
