import Suppression.Decimal.Limits
import Suppression.Decimal.Nearest
import Suppression.Json.Failure
import Suppression.Json.Value

/-!
# Reading numbers

A number without point and exponent that fits into 64 bits is exact. Any other number
is read as digits that fit into 64 bits, which are then scaled once by a power of ten,
so it may differ in the last place from the nearest binary number.
-/

namespace Suppression.Json

/-- Reading stopped: why, and the bytes not looked at yet. -/
structure Stop where
  /-- Why reading stopped. -/
  cause : Cause
  /-- The bytes behind the last one that was looked at. -/
  unseen : List UInt8

/-- Stop after a look at the next byte. -/
def stopAt {α : Type} (cause : Cause) (bytes : List UInt8) : Except Stop α :=
  .error ⟨cause, bytes.drop 1⟩

/-- The value of a decimal digit. -/
def digit? (byte : UInt8) : Option Nat :=
  if 0x30 ≤ byte ∧ byte ≤ 0x39 then some (byte.toNat - 0x30) else none

/-- The digits that a text begins with, and the rest of it. -/
def takeDigits : List UInt8 → List Nat × List UInt8
  | [] => ([], [])
  | byte :: bytes =>
      match digit? byte with
      | none => ([], byte :: bytes)
      | some d =>
          let (digits, rest) := takeDigits bytes
          (d :: digits, rest)

/-- Append digits to a significand while it fits into 64 bits. Gives the significand and
the number of digits that found no room. -/
def absorb (significand : Nat) : List Nat → Nat × Nat
  | [] => (significand, 0)
  | d :: digits =>
      if significand * 10 + d < Decimal.wordSize then absorb (significand * 10 + d) digits
      else (significand, digits.length + 1)

/-- `value * 10 ^ exponent`, in steps of at most 308 powers of ten. -/
def scale (value : Float) (exponent : Int) : Option Float :=
  if 308 < exponent then
    if value == 0 then some value else none
  else if 0 ≤ exponent then
    let scaled := value * Decimal.nearest 1 exponent
    if scaled.isInf then none else some scaled
  else if -308 ≤ exponent then
    some (value / Decimal.nearest 1 (-exponent))
  else if value == 0 then some value
  else scale (value / Decimal.nearest 1 308) (exponent + 308)
termination_by (-exponent).toNat
decreasing_by omega

/-- The number with this sign, significand and power of ten. -/
def scaledNumber (negative : Bool) (significand : Nat) (exponent : Int) (rest : List UInt8) :
    Except Stop (Number × List UInt8) :=
  match scale (UInt64.ofNat significand).toFloat exponent with
  | none => stopAt .hugeNumber rest
  | some value => .ok (.float (if negative then -value else value), rest)

/-- One more than the greatest integer of 31 bits. -/
def exponentLimit : Nat := 2147483648

/-- Digits of an exponent, read behind `exponent`. Beyond 31 bits the number is zero or out
of range, whatever follows. -/
def readExponentDigits (negative : Bool) (significand : Nat) (shift : Int) (negativeExponent : Bool)
    (exponent : Nat) : List UInt8 → Except Stop (Number × List UInt8)
  | [] => finish exponent []
  | byte :: bytes =>
      match digit? byte with
      | none => finish exponent (byte :: bytes)
      | some d =>
          if exponent * 10 + d < exponentLimit then
            readExponentDigits negative significand shift negativeExponent (exponent * 10 + d) bytes
          else if significand ≠ 0 ∧ !negativeExponent then .error ⟨.hugeNumber, bytes⟩
          else .ok (.float (if negative then -0.0 else 0.0), (takeDigits bytes).2)
where
  /-- The exponent is complete. -/
  finish (exponent : Nat) (rest : List UInt8) : Except Stop (Number × List UInt8) :=
    scaledNumber negative significand
      (if negativeExponent then shift - exponent else shift + exponent) rest

/-- What stands behind the letter of an exponent. -/
def readExponent (negative : Bool) (significand : Nat) (shift : Int) (bytes : List UInt8) :
    Except Stop (Number × List UInt8) :=
  let (negativeExponent, bytes) := match bytes with
    | 0x2B :: rest => (false, rest)
    | 0x2D :: rest => (true, rest)
    | _ => (false, bytes)
  match bytes with
  | [] => .error ⟨.endInValue, []⟩
  | byte :: rest =>
      match digit? byte with
      | none => .error ⟨.badNumber, rest⟩
      | some d => readExponentDigits negative significand shift negativeExponent d rest

/-- The exponent, if there is one, or else the end of a number that is no integer. -/
def readScale (negative : Bool) (significand : Nat) (shift : Int) (bytes : List UInt8) :
    Except Stop (Number × List UInt8) :=
  match bytes with
  | 0x65 :: rest => readExponent negative significand shift rest
  | 0x45 :: rest => readExponent negative significand shift rest
  | _ => scaledNumber negative significand shift bytes

/-- An integer if it fits. Zero with a sign is no integer. -/
def wholeNumber (negative : Bool) (significand : Nat) (rest : List UInt8) :
    Except Stop (Number × List UInt8) :=
  if !negative then .ok (.integer significand, rest)
  else if significand = 0 ∨ Decimal.halfSize < significand then
    .ok (.float (-(UInt64.ofNat significand).toFloat), rest)
  else .ok (.integer (-significand), rest)

/-- What stands behind the digits of the whole part. -/
def readFraction (negative : Bool) (digits : List Nat) (bytes : List UInt8) :
    Except Stop (Number × List UInt8) :=
  let (significand, dropped) := absorb 0 digits
  match bytes with
  | 0x2E :: rest =>
      let (decimals, rest) := takeDigits rest
      if decimals.isEmpty then
        if rest.isEmpty then .error ⟨.endInValue, []⟩ else stopAt .badNumber rest
      else
        let (significand, unused) := absorb significand decimals
        readScale negative significand ((dropped : Int) - (decimals.length - unused : Nat)) rest
  | 0x65 :: _ => readScale negative significand dropped bytes
  | 0x45 :: _ => readScale negative significand dropped bytes
  | _ =>
      if dropped = 0 then wholeNumber negative significand bytes
      else scaledNumber negative significand dropped bytes

/-- The number behind its sign. A leading zero stands alone. -/
def readNumber (negative : Bool) (bytes : List UInt8) : Except Stop (Number × List UInt8) :=
  match takeDigits bytes with
  | ([], []) => .error ⟨.endInValue, []⟩
  | ([], _ :: rest) => .error ⟨.badNumber, rest⟩
  | (0 :: _ :: _, _) => stopAt .badNumber (bytes.drop 1)
  | (digits, rest) => readFraction negative digits rest

end Suppression.Json
