import Suppression.Decimal.Written
import Suppression.Json.Value
import Suppression.Text.Digits

/-!
# Writing documents

A layout says what is put between the items of a document. The compact layout puts
nothing there; the indented one starts a line for every item of a nonempty array or
object.
-/

namespace Suppression.Json

/-- Numbers of documents are written without a power of ten between 0.00001 and
10 ^ 16, and whole ones have a point. -/
def numberStyle : Decimal.Style := ⟨fun leading => -5 ≤ leading ∧ leading ≤ 15, ".0", false⟩

/-- The text of a number. -/
def Number.write : Number → String
  | .integer value => toString value
  | .float value => numberStyle.write value

/-- How a character of a string is written. -/
def writeChar (c : Char) : List Char :=
  if c = '"' then ['\\', '"']
  else if c = '\\' then ['\\', '\\']
  else if c = '\x08' then ['\\', 'b']
  else if c = '\x0c' then ['\\', 'f']
  else if c = '\n' then ['\\', 'n']
  else if c = '\r' then ['\\', 'r']
  else if c = '\t' then ['\\', 't']
  else if c.toNat < 32 then
    ['\\', 'u', '0', '0', Text.hexDigit (c.toNat / 16), Text.hexDigit (c.toNat % 16)]
  else [c]

/-- The written form of a string. -/
def writeString (text : String) : List Char :=
  '"' :: text.toList.flatMap writeChar ++ ['"']

/-- What stands between the items of a document. -/
structure Layout where
  /-- In front of an item at this depth, and of the bracket that closes it. -/
  lineStart : Nat → List Char
  /-- Between a key and its value. -/
  colon : List Char

/-- Nothing stands between the items. -/
def Layout.compact : Layout := ⟨fun _ => [], [':']⟩

/-- Every item stands on a line of its own, with `width` spaces for every level. -/
def Layout.indented (width : Nat) : Layout :=
  ⟨fun depth => '\n' :: List.replicate (depth * width) ' ', [':', ' ']⟩

namespace Layout

mutual

/-- The text of a value at some depth. -/
def write (layout : Layout) (depth : Nat) : Value → List Char
  | .null => ['n', 'u', 'l', 'l']
  | .bool true => ['t', 'r', 'u', 'e']
  | .bool false => ['f', 'a', 'l', 's', 'e']
  | .number number => number.write.toList
  | .string text => writeString text
  | .array [] => ['[', ']']
  | .array (item :: items) =>
      '[' :: layout.lineStart (depth + 1) ++ layout.write (depth + 1) item
        ++ layout.writeItems (depth + 1) items ++ layout.lineStart depth ++ [']']
  | .object [] => ['\x7b', '\x7d']
  | .object ((key, value) :: fields) =>
      '\x7b' :: layout.lineStart (depth + 1) ++ writeString key ++ layout.colon
        ++ layout.write (depth + 1) value ++ layout.writeFields (depth + 1) fields
        ++ layout.lineStart depth ++ ['\x7d']

/-- The items of an array from the second one on. -/
def writeItems (layout : Layout) (depth : Nat) : List Value → List Char
  | [] => []
  | item :: items =>
      ',' :: layout.lineStart depth ++ layout.write depth item ++ layout.writeItems depth items

/-- The fields of an object from the second one on. -/
def writeFields (layout : Layout) (depth : Nat) : List (String × Value) → List Char
  | [] => []
  | (key, value) :: fields =>
      ',' :: layout.lineStart depth ++ writeString key ++ layout.colon
        ++ layout.write depth value ++ layout.writeFields depth fields

end

end Layout

/-- The document on one line. -/
def Value.compact (value : Value) : String :=
  String.ofList (Layout.compact.write 0 value)

/-- The document with an item on every line. -/
def Value.indented (width : Nat) (value : Value) : String :=
  String.ofList ((Layout.indented width).write 0 value)

end Suppression.Json
