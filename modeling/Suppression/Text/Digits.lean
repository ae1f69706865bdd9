/-!
# Numbers in texts

Natural numbers are written with decimal digits, and codes of characters with
hexadecimal ones. Reading what was written gives the number again.
-/

namespace Suppression.Text

/-- The natural number that a text of digits spells. -/
def natural? (digits : List Char) : Option Nat :=
  if digits ≠ [] ∧ digits.all Char.isDigit then some (Nat.ofDigitChars 10 digits 0) else none

/-- A sign in front of a number, and the text behind it. The sign may be missing. -/
def takeSign : List Char → Bool × List Char
  | '-' :: text => (true, text)
  | '+' :: text => (false, text)
  | text => (false, text)

/-- A number with a sign. -/
def signed (negative : Bool) (value : Nat) : Int := if negative then -value else value

/-- A hexadecimal digit, in lower case. -/
def hexDigit (n : Nat) : Char :=
  if n < 10 then Char.ofNat (48 + n) else Char.ofNat (87 + n)

/-- A hexadecimal digit, in upper case. -/
def upperHexDigit (n : Nat) : Char :=
  if n < 10 then Char.ofNat (48 + n) else Char.ofNat (55 + n)

/-- The value of a hexadecimal digit, in either case. -/
def hexValue? (c : Char) : Option Nat :=
  if '0' ≤ c ∧ c ≤ '9' then some (c.toNat - 48)
  else if 'a' ≤ c ∧ c ≤ 'f' then some (c.toNat - 87)
  else if 'A' ≤ c ∧ c ≤ 'F' then some (c.toNat - 55)
  else none

/-- The written form of a natural number spells it. -/
theorem natural?_repr (n : Nat) : natural? n.repr.toList = some n := by
  have hdigits : (Nat.toDigits 10 n).all Char.isDigit = true := by
    rw [List.all_eq_true]
    intro c hc
    exact Nat.isDigit_of_mem_toDigits (by decide) (by decide) hc
  rw [natural?, Nat.toList_repr, if_pos ⟨Nat.toDigits_ne_nil, hdigits⟩]
  rw [Nat.ofDigitChars_toDigits (by decide) (by decide)]

theorem hexValue?_upperHexDigit {n : Nat} (h : n < 16) :
    hexValue? (upperHexDigit n) = some n := by
  have hall : ∀ n < 16, hexValue? (upperHexDigit n) = some n := by decide
  exact hall n h

end Suppression.Text
