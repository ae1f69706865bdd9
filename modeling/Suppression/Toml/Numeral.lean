import Suppression.Decimal.Limits
import Suppression.Decimal.Spelled
import Suppression.Text.Digits
import Suppression.Text.Pieces

/-!
# Numbers of a settings file

A number is first taken as it is spelled, which settles whether it is a number at all.
Its value is found later, and may not fit into 64 bits.
-/

namespace Suppression.Toml

/-- A number as it is spelled, without the underscores among its digits. -/
inductive Numeral where
  /-- Digits of this base, with or without a sign. -/
  | integer (base : Nat) (text : List Char)
  /-- Digits with a point or an exponent, or a word for what is no finite number. -/
  | fraction (text : List Char)
  deriving DecidableEq, Repr

/-- Why a numeral has no value. -/
inductive NumeralFault where
  | noDigits
  | badDigit
  | tooGreat
  | tooSmall
  | overflow
  deriving DecidableEq, Repr

/-- The message for the user. -/
def NumeralFault.message : NumeralFault → String
  | .noDigits => "cannot parse integer from empty string"
  | .badDigit => "invalid digit found in string"
  | .tooGreat => "number too large to fit in target type"
  | .tooSmall => "number too small to fit in target type"
  | .overflow => "floating-point number overflowed"

/-- The value of a digit below `base`. -/
def digitBelow (base : Nat) (c : Char) : Option Nat :=
  (Text.hexValue? c).filter (· < base)

namespace Numeral

/-- Put a digit behind those of a number, away from zero. -/
def addDigit (base : Nat) (negative : Bool) (value : Int) (c : Char) :
    Except NumeralFault Int :=
  match digitBelow base c with
  | none => .error .badDigit
  | some digit =>
      let next := value * base + Text.signed negative digit
      if Decimal.isSigned next then .ok next
      else .error (if negative then .tooSmall else .tooGreat)

/-- The integer of 64 bits that digits spell. The first digit that does not fit counts. -/
def toInteger (base : Nat) (text : List Char) : Except NumeralFault Int :=
  let (negative, digits) := Text.takeSign text
  if text = [] then .error .noDigits
  else if digits = [] then .error .badDigit
  else digits.foldlM (addDigit base negative) 0

/-- The number of 64 bits that a text spells. One with digits is finite. -/
def toFloat (text : List Char) : Except NumeralFault Float :=
  match Decimal.spelled? text with
  | none => .error .badDigit
  | some value =>
      if value.isInf && text.any Char.isDigit then .error .overflow else .ok value

end Numeral

/-- Groups of digits behind an underscore begin with a digit, and those in front of one
end with a digit. -/
def groupsFit (isDigit : Char → Bool) : List (List Char) → Bool
  | [] => true
  | [last] => last.head?.any isDigit
  | group :: groups =>
      group.head?.any isDigit && group.getLast?.any isDigit && groupsFit isDigit groups

/-- The text without its underscores, if these stand between digits. A single character
in front of the first underscore may also be a sign. -/
def joinGroups? (isDigit : Char → Bool) (text : List Char) : Option (List Char) :=
  match Text.pieces (· = '_') text with
  | [] => none
  | [only] => some only
  | first :: groups =>
      if first ≠ [] ∧ (first.length = 1 ∨ first.getLast?.any isDigit) ∧ groupsFit isDigit groups
      then some (first ++ groups.flatten)
      else none

/-- A character of a grouped number. -/
def isGrouped (c : Char) : Bool := c.isDigit || c = '_'

/-- The number of digits that a text begins with, underscores among them not counted. -/
def leadingDigits (text : List Char) : Nat := (text.takeWhile isGrouped).countP Char.isDigit

/-- The end of a number with a point or an exponent is as it has to be. -/
def isExponent : List Char → Bool
  | [] => true
  | mark :: text =>
      let digits := (Text.takeSign text).2
      (mark = 'e' || mark = 'E') && digits.all isGrouped && leadingDigits digits ≠ 0

/-- A number with a point or an exponent is as it has to be, underscores aside. There is
no superfluous zero in front. -/
def isFraction (text : List Char) : Bool :=
  let whole := leadingDigits text
  whole ≠ 0 && (whole = 1 || text.head? ≠ some '0') &&
    match text.dropWhile isGrouped with
    | '.' :: fraction =>
        leadingDigits fraction ≠ 0 && isExponent (fraction.dropWhile isGrouped)
    | rest => isExponent rest

/-- The decimal numeral with this text, which is `unsigned` behind its sign. Whether it
is an integer is seen behind its first digits. -/
def readDecimal? (text unsigned : List Char) : Option Numeral :=
  let rest := unsigned.dropWhile Char.isDigit
  if rest.any fun c => c = '.' || c = 'e' || c = 'E' then
    if isFraction unsigned then (joinGroups? Char.isDigit text).map .fraction else none
  else if (rest = [] ∨ rest.head? = some '_') ∧ (unsigned.head? ≠ some '0' ∨ unsigned = ['0'])
  then (joinGroups? (fun c => (digitBelow 16 c).isSome) text).map (.integer 10)
  else none

/-- The numeral with digits of a base that is marked in front of them. -/
def readMarked? (base : Nat) (digits : List Char) : Option Numeral :=
  let isDigit := fun c => (digitBelow base c).isSome
  if digits.all fun c => isDigit c || c = '_' then
    (joinGroups? isDigit digits).map (.integer base)
  else none

/-- The words for what is no finite number. -/
def numberWords : List (List Char) := [['i', 'n', 'f'], ['n', 'a', 'n']]

/-- The numeral that a text spells. -/
def readNumeral? (text : List Char) : Option Numeral :=
  let unsigned := (Text.takeSign text).2
  if unsigned ∈ numberWords then some (.fraction text)
  else
    match text with
    | '0' :: 'x' :: digits => readMarked? 16 digits
    | '0' :: 'o' :: digits => readMarked? 8 digits
    | '0' :: 'b' :: digits => readMarked? 2 digits
    | _ => if unsigned.head?.any isGrouped then readDecimal? text unsigned else none

end Suppression.Toml
