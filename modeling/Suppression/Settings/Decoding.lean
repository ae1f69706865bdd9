import Suppression.Decimal.Limits
import Suppression.Decimal.Shortest
import Suppression.Decimal.Written
import Suppression.Settings.Basic
import Suppression.Settings.Layers
import Suppression.Settings.Variables
import Suppression.Text.Digits
import Suppression.Text.Quoted

/-!
# Settings from layers

The merged layers are read into the settings. A text may be given as a truth value or a
number, and a whole number as a text, a fraction or a truth value; then the one is
turned into the other. Groups may also be arrays, which list the settings in order.
-/

namespace Suppression.Settings

/-- What was given. -/
inductive Found where
  /-- A negative integer where only the sign is wrong. -/
  | negative (value : Int)
  | integer (value : Int)
  | float (value : Float)
  | boolean (value : Bool)
  | text (value : String)
  | sequence
  | map
  | nothing

/-- What was given, for a message. -/
def Found.describe : Found → String
  | .negative value => "64-bit integer `" ++ toString value ++ "`"
  | .integer value => "integer `" ++ toString value ++ "`"
  | .float value => "floating point `" ++ Decimal.Style.pointed.write value ++ "`"
  | .boolean true => "boolean `true`"
  | .boolean false => "boolean `false`"
  | .text value => "string " ++ Text.quoted value
  | .sequence => "sequence"
  | .map => "map"
  | .nothing => "unit value"

/-- What should have been given. -/
inductive Expected where
  | text
  | integer
  | natural
  | filtering
  | reporting
  deriving DecidableEq, Repr

/-- What should have been given, for a message. -/
def Expected.describe : Expected → String
  | .text => "a string"
  | .integer => "an integer"
  | .natural => "an unsigned 64 bit or less integer"
  | .filtering => "struct FilterConfig"
  | .reporting => "struct ReportConfig"

/-- A setting that was given in the wrong way. -/
structure Mismatch where
  /-- What was given. -/
  found : Found
  /-- What should have been given. -/
  expected : Expected
  /-- The setting. -/
  key : String
  /-- The source that gave it. -/
  source : Option String

/-- The message for the user. -/
def Mismatch.message (mismatch : Mismatch) : String :=
  "invalid type: " ++ mismatch.found.describe ++ ", expected " ++ mismatch.expected.describe ++
    " for key `" ++ mismatch.key ++ "`" ++
    (match mismatch.source with
      | some source => " in " ++ source
      | none => "")

/-- The text of a scalar. -/
def Scalar.toText : Scalar → String
  | .boolean true => "true"
  | .boolean false => "false"
  | .integer value => toString value
  | .float value => Decimal.Style.prose.write value
  | .text value => value

/-- The greatest whole number of 64 bits. -/
def greatestNatural : Nat := Decimal.wordSize - 1

/-- The whole number of 64 bits nearest to a number, where halves go up. -/
def roundToNatural (value : Float) : Nat :=
  if value.isNaN || value ≤ 0 then 0
  else if value.isInf then greatestNatural
  else
    let binary := Decimal.Binary.ofBits value.toBits
    let down := (-binary.exponent).toNat
    let rounded :=
      if 0 ≤ binary.exponent then binary.mantissa * Nat.pow 2 binary.exponent.toNat
      else (binary.mantissa + Nat.pow 2 (down - 1)) / Nat.pow 2 down
    min rounded greatestNatural

/-- The whole number of 64 bits that a text spells. Words of agreement count as one,
words of refusal as zero. -/
def naturalOfText? (text : String) : Option Nat :=
  if lowerCase text ∈ ["true", "on", "yes"] then some 1
  else if lowerCase text ∈ ["false", "off", "no"] then some 0
  else
    let digits := match text.toList with
      | '+' :: digits => digits
      | digits => digits
    (Text.natural? digits).filter (· ≤ greatestNatural)

namespace Item

/-- The source of an item. -/
def source : Item → Option String
  | .missing => none
  | .scalar source _ => source
  | .array source _ => source
  | .table source _ => source

/-- Say that an item is not what was expected. -/
def mismatch {α : Type} (item : Item) (expected : Expected) (key : String) (found : Found) :
    Except Mismatch α :=
  .error ⟨found, expected, key, item.source⟩

/-- The text that an item gives. -/
def toText (key : String) (item : Item) : Except Mismatch String :=
  match item with
  | .scalar _ value => .ok value.toText
  | .missing => item.mismatch .text key .nothing
  | .array _ _ => item.mismatch .text key .sequence
  | .table _ _ => item.mismatch .text key .map

/-- The whole number that an item gives. -/
def toNatural (key : String) (item : Item) : Except Mismatch Nat :=
  match item with
  | .scalar _ (.boolean value) => .ok (if value then 1 else 0)
  | .scalar _ (.integer value) =>
      if value < 0 then item.mismatch .natural key (.negative value) else .ok value.toNat
  | .scalar _ (.float value) => .ok (roundToNatural value)
  | .scalar _ (.text value) =>
      match naturalOfText? value with
      | some n => .ok n
      | none => item.mismatch .integer key (.text value)
  | .missing => item.mismatch .integer key .nothing
  | .array _ _ => item.mismatch .integer key .sequence
  | .table _ _ => item.mismatch .integer key .map

/-- The text that an item gives, if it gives anything. -/
def toText? (key : String) (item : Item) : Except Mismatch (Option String) :=
  match item with
  | .missing => .ok none
  | item => (item.toText key).map some

/-- The item of a setting of a group, with its key. A group is a table, or an array that
lists its settings in order. -/
def setting? (expected : Expected) (group : String) (name : String) (place : Nat)
    (item : Item) : Except Mismatch (Option (String × Item)) :=
  let wrong (found : Found) : Except Mismatch (Option (String × Item)) :=
    .error ⟨found, expected, group, none⟩
  match item with
  | .table _ fields => .ok ((fields.lookup name).map fun item => (group ++ "." ++ name, item))
  | .array _ items =>
      .ok (items[place]?.map fun item => (group ++ "[" ++ toString place ++ "]", item))
  | .missing => wrong .nothing
  | .scalar _ (.boolean value) => wrong (.boolean value)
  | .scalar _ (.integer value) => wrong (.integer value)
  | .scalar _ (.float value) => wrong (.float value)
  | .scalar _ (.text value) => wrong (.text value)

/-- The value of a setting of a group, or `default` if it is not given. -/
def get {α : Type} (expected : Expected) (group name : String) (place : Nat)
    (read : String → Item → Except Mismatch α) (default : α) (item : Item) :
    Except Mismatch α := do
  match ← item.setting? expected group name place with
  | none => return default
  | some (key, item) => read key item

/-- The settings for filtering. -/
def toFiltering (item : Item) : Except Mismatch Filtering := do
  return {
    patterns := ← item.get .filtering "filter" "patterns" 0 toText ({} : Filtering).patterns
    indent := ← item.get .filtering "filter" "indent" 1 toNatural ({} : Filtering).indent }

/-- The settings for tallies. -/
def toReporting (item : Item) : Except Mismatch Reporting := do
  return { toolName := ← item.get .reporting "report" "tool_name" 0 toText? none }

/-- What stands at a key of the outermost table. -/
def group? (name : String) : Item → Option Item
  | .table _ fields => fields.lookup name
  | _ => none

/-- The settings that the merged layers give. -/
def toSettings (item : Item) : Except Mismatch Settings := do
  return {
    filtering := ← (item.group? "filter").elim (pure {}) toFiltering
    reporting := ← (item.group? "report").elim (pure {}) toReporting }

end Item

end Suppression.Settings
