import Suppression.Json.Writer
import Suppression.Yaml.Block

/-!
# Writing documents as YAML

Fields stand below each other. What belongs to a key stands deeper than the key, but the
items of an array start at the column of their key.
-/

namespace Suppression.Yaml

open Json (Value)

/-- The spaces in front of a line at this depth. -/
def margin (depth : Nat) : List Char := List.replicate (2 * depth) ' '

/-- A line at this depth. -/
def line (depth : Nat) (content : List Char) : List Char :=
  margin depth ++ content ++ ['\n']

/-- What stands behind a key or a dash for a text. A block stands at this depth. -/
def writeText (depth : Nat) (text : String) : List Char :=
  match Form.of (margin depth).length text.toList with
  | .line content => ' ' :: content ++ ['\n']
  | .block sign lines => ' ' :: sign ++ '\n' :: lines.flatMap (line depth)

/-- What stands behind a key or a dash for a word. -/
def writeWord (word : String) : List Char := ' ' :: word.toList ++ ['\n']

mutual

/-- What stands behind a key at this depth. -/
def writeValue (depth : Nat) : Value → List Char
  | .null => writeWord "null"
  | .bool true => writeWord "true"
  | .bool false => writeWord "false"
  | .number number => writeWord number.write
  | .string text => writeText (depth + 1) text
  | .array [] => writeWord "[]"
  | .array (item :: items) => '\n' :: writeItems depth (item :: items)
  | .object [] => writeWord "\x7b\x7d"
  | .object (field :: fields) => '\n' :: writeFields (depth + 1) (field :: fields)

/-- The items of an array at this depth. -/
def writeItems (depth : Nat) : List Value → List Char
  | [] => []
  | .object ((key, value) :: fields) :: items =>
      margin depth ++ ['-', ' '] ++ writeKey key.toList ++ ':' :: writeValue (depth + 1) value
        ++ writeFields (depth + 1) fields ++ writeItems depth items
  | item :: items => margin depth ++ '-' :: writeValue (depth + 1) item ++ writeItems depth items

/-- The fields of an object at this depth. -/
def writeFields (depth : Nat) : List (String × Value) → List Char
  | [] => []
  | (key, value) :: fields =>
      margin depth ++ writeKey key.toList ++ ':' :: writeValue depth value
        ++ writeFields depth fields

end

/-- The text of an object, with a line break at the end of each line. -/
def write (fields : List (String × Value)) : String := String.ofList (writeFields 0 fields)

end Suppression.Yaml
