import Suppression.Decimal.Shortest

/-!
# How decimals are written

A style settles what the shortest decimal leaves open: where a power of ten takes the
place of zeros, whether whole numbers show a point, and which of two equally near
decimals is taken.
-/

namespace Suppression.Decimal

/-- The choices of a way to write numbers. -/
structure Style where
  /-- The numbers with this power of ten in front of their first digit are written
  without a power of ten. -/
  isPlain : Int → Bool
  /-- Ends a whole number that is written without a power of ten. -/
  wholeEnd : String
  /-- Of two equally near decimals the greater one is taken, otherwise the even one. -/
  tieUp : Bool

/-- `count` zeros. -/
def zeros (count : Nat) : String := "".pushn '0' count

namespace Digits

/-- The power of ten of the first digit. -/
def leading (digits : Digits) : Int :=
  digits.exponent + (toString digits.coefficient).length - 1

/-- The number without a power of ten. -/
def plain (digits : Digits) (wholeEnd : String) : String :=
  let text := toString digits.coefficient
  if 0 ≤ digits.exponent then text ++ zeros digits.exponent.toNat ++ wholeEnd
  else if 0 ≤ digits.leading then
    let whole := digits.leading.toNat + 1
    String.ofList (text.toList.take whole) ++ "." ++ String.ofList (text.toList.drop whole)
  else "0." ++ zeros (-digits.leading - 1).toNat ++ text

/-- The number with one digit in front of the point and a signed power of ten. -/
def scientific (digits : Digits) : String :=
  let text := (toString digits.coefficient).toList
  let fraction := if text.length ≤ 1 then "" else "." ++ String.ofList (text.drop 1)
  let sign := if digits.leading < 0 then "e-" else "e+"
  String.ofList (text.take 1) ++ fraction ++ sign ++ toString digits.leading.natAbs

end Digits

/-- The text of a number in a style. -/
def Style.write (style : Style) (value : Float) : String :=
  if value.isNaN then "NaN"
  else
    let sign := if value.toBits >>> 63 = 1 then "-" else ""
    if value.isInf then sign ++ "inf"
    else if value == 0 then sign ++ "0" ++ style.wholeEnd
    else
      let digits := shortest style.tieUp (Binary.ofBits value.toBits)
      if style.isPlain digits.leading then sign ++ digits.plain style.wholeEnd
      else sign ++ digits.scientific

/-- Numbers in messages and texts are written without a power of ten, and whole ones
without a point. -/
def Style.prose : Style := ⟨fun _ => true, "", true⟩

/-- As in prose, but a whole number has a point. -/
def Style.pointed : Style := ⟨fun _ => true, ".0", true⟩

end Suppression.Decimal
