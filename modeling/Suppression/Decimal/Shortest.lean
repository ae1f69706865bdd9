/-!
# Shortest decimals

The shortest decimal of a binary number is the one with the fewest digits among the
decimals that round to that number. Of several with equally few digits the nearest
counts. All comparisons are between natural numbers, so they are exact.
-/

namespace Suppression.Decimal

/-- The number `coefficient * 10 ^ exponent`. -/
structure Digits where
  /-- The digits, read as a natural number. -/
  coefficient : Nat
  /-- The power of ten they count. -/
  exponent : Int
  deriving DecidableEq, Repr

/-- The positive number `mantissa * 2 ^ exponent` with the gaps to its neighbours. -/
structure Binary where
  /-- The significant bits. -/
  mantissa : Nat
  /-- The power of two they count. -/
  exponent : Int
  /-- The neighbour below is only half as far away as the one above. -/
  halfGapBelow : Bool
  deriving DecidableEq, Repr

namespace Binary

/-- The finite nonzero number with these binary64 bits, without its sign. -/
def ofBits (bits : UInt64) : Binary :=
  let fraction := (bits &&& 0xFFFFFFFFFFFFF).toNat
  let biased := ((bits >>> 52) &&& 0x7FF).toNat
  if biased = 0 then ⟨fraction, -1074, false⟩
  else ⟨Nat.pow 2 52 + fraction, (biased : Int) - 1075, fraction = 0 && 1 < biased⟩

/-- Numerator and denominator of `10 ^ power` in quarters of the last bit. -/
def grid (value : Binary) (power : Int) : Nat × Nat :=
  (Nat.pow 10 power.toNat * Nat.pow 2 (2 - value.exponent).toNat,
   Nat.pow 2 (value.exponent - 2).toNat * Nat.pow 10 (-power).toNat)

/-- The decimal `c * 10 ^ power` rounds to the number. Numbers half way to a neighbour
round to the one with an even mantissa. -/
def roundsFrom (value : Binary) (c : Nat) (power : Int) : Bool :=
  let (up, down) := value.grid power
  let low := (4 * value.mantissa - if value.halfGapBelow then 1 else 2) * down
  let high := (4 * value.mantissa + 2) * down
  if value.mantissa % 2 = 0 then low ≤ c * up && c * up ≤ high
  else low < c * up && c * up < high

/-- The greatest `e` for which `10 ^ e` does not exceed the number. -/
def magnitude (value : Binary) : Int :=
  let guess := ((value.mantissa.log2 : Int) + value.exponent) * 30103 / 100000
  let reaches (power : Int) : Bool :=
    let (up, down) := value.grid power
    up ≤ 4 * value.mantissa * down
  if reaches (guess + 1) then guess + 1
  else if reaches guess then guess
  else guess - 1

/-- The decimal on the grid of `10 ^ power` that rounds to the number and is nearest to
it. Of two that are equally near `tieUp` takes the greater one, and otherwise the even
one is taken. -/
def onGrid? (tieUp : Bool) (value : Binary) (power : Int) : Option Nat :=
  let (up, down) := value.grid power
  let exact := 4 * value.mantissa * down
  let below := exact / up
  let above := below + 1
  match value.roundsFrom below power, value.roundsFrom above power with
  | false, false => none
  | true, false => some below
  | false, true => some above
  | true, true =>
      let toBelow := exact - below * up
      let toAbove := above * up - exact
      if toBelow < toAbove then some below
      else if toAbove < toBelow then some above
      else if tieUp || below % 2 = 1 then some above
      else some below

/-- The first grid from `power` downwards that has a decimal for the number. -/
def search (tieUp : Bool) (value : Binary) (power : Int) : Nat → Digits
  | 0 => ⟨0, 0⟩
  | grids + 1 =>
      match value.onGrid? tieUp power with
      | some c => ⟨c, power⟩
      | none => search tieUp value (power - 1) grids

end Binary

/-- Move zeros at the end of the coefficient into the exponent, at most `count` of them. -/
def Digits.trim : Nat → Digits → Digits
  | 0, digits => digits
  | count + 1, digits =>
      if digits.coefficient ≠ 0 ∧ digits.coefficient % 10 = 0 then
        Digits.trim count ⟨digits.coefficient / 10, digits.exponent + 1⟩
      else digits

/-- The shortest decimal of a number. Seventeen digits always suffice. -/
def shortest (tieUp : Bool) (value : Binary) : Digits :=
  (value.search tieUp value.magnitude 17).trim 17

end Suppression.Decimal
