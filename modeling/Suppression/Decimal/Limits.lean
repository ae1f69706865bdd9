/-!
# Numbers of 64 bits

Many formats hold no whole numbers beyond 64 bits.
-/

namespace Suppression.Decimal

/-- The number of natural numbers of 64 bits. -/
def wordSize : Nat := UInt64.size

/-- The number of those that have a sign and are not negative. -/
def halfSize : Nat := wordSize / 2

/-- The integer has a place among those of 64 bits. -/
def isSigned (value : Int) : Bool :=
  -(halfSize : Int) ≤ value && value < halfSize

end Suppression.Decimal
