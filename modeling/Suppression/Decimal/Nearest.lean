/-!
# Nearest binary numbers

The binary64 number that is nearest to a decimal. Half way between two of them the one
with an even mantissa is taken. Everything is computed with natural numbers.
-/

namespace Suppression.Decimal

/-- The quotient rounded to the nearest whole number, and to the even one of two. -/
def roundQuotient (numerator denominator : Nat) : Nat :=
  let quotient := numerator / denominator
  let rest := 2 * (numerator % denominator)
  if denominator < rest ∨ (rest = denominator ∧ quotient % 2 = 1) then quotient + 1 else quotient

/-- The bits of the binary64 number nearest to a positive fraction. -/
def nearestBits (numerator denominator : Nat) : Nat :=
  let scaled (exponent : Int) : Nat × Nat :=
    (numerator * Nat.pow 2 (-exponent).toNat, denominator * Nat.pow 2 exponent.toNat)
  let guess : Int := max ((numerator.log2 : Int) - denominator.log2 - 52) (-1074)
  let (n, d) := scaled guess
  let exponent := if n / d < Nat.pow 2 52 ∧ -1074 < guess then guess - 1 else guess
  let (n, d) := scaled exponent
  let mantissa := roundQuotient n d
  let bits := if mantissa < Nat.pow 2 52 then mantissa
    else (exponent + 1075).toNat * Nat.pow 2 52 + (mantissa - Nat.pow 2 52)
  min bits (0x7FF * Nat.pow 2 52)

/-- The binary64 number nearest to `coefficient * 10 ^ exponent`. -/
def nearest (coefficient : Nat) (exponent : Int) : Float :=
  let digits := (toString coefficient).length
  if coefficient = 0 ∨ digits + exponent < -400 then 0
  else if 400 < digits + exponent then Float.ofBits 0x7FF0000000000000
  else
    Float.ofBits (UInt64.ofNat
      (nearestBits (coefficient * Nat.pow 10 exponent.toNat) (Nat.pow 10 (-exponent).toNat)))

end Suppression.Decimal
