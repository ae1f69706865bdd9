import Suppression.Decimal.Nearest
import Suppression.Text.Digits

/-!
# Numbers that a text spells

A text spells a number with digits, a point and a power of ten, or with a word for what
is no finite number. The number is the nearest one that binary64 has.
-/

namespace Suppression.Decimal

/-- The power of ten that the end of a number spells. -/
def power? : List Char → Option Int
  | [] => some 0
  | c :: text => do
      let (negative, digits) := Text.takeSign text
      let value ← Text.natural? digits
      if c = 'e' ∨ c = 'E' then some (Text.signed negative value) else none

/-- The number that digits, a point and an exponent spell. Digits may be left out in
front of the point or behind it. -/
def unsigned? (text : List Char) : Option Float := do
  let whole := text.takeWhile Char.isDigit
  let rest := text.drop whole.length
  let fraction := match rest with
    | '.' :: rest => rest.takeWhile Char.isDigit
    | _ => []
  let behind := match rest with
    | '.' :: rest => rest.drop fraction.length
    | _ => rest
  let digits := whole ++ fraction
  let power ← power? behind
  if digits = [] then none
  else some (nearest (Nat.ofDigitChars 10 digits 0) (power - fraction.length))

/-- The number that a text spells, which may be infinite or none at all. -/
def spelled? (text : List Char) : Option Float := do
  let (negative, unsigned) := Text.takeSign text
  let name := unsigned.map Char.toLower
  let value ←
    if name = "inf".toList ∨ name = "infinity".toList then
      some (Float.ofBits 0x7FF0000000000000)
    else if name = "nan".toList then some (Float.ofBits 0x7FF8000000000000)
    else unsigned? unsigned
  return if negative then -value else value

end Suppression.Decimal
