import Suppression.Decimal.Limits
import Suppression.Decimal.Spelled
import Suppression.Settings.Basic
import Suppression.Settings.Layers
import Suppression.Text.Digits

/-!
# Settings from variables

A variable whose name begins with `sift_`, in any case, is a setting. Two underscores in
the rest of its name stand for a dot. A value that looks like a truth value or a number
is taken as one.
-/

namespace Suppression.Settings

/-- The text in lower case, as far as it is ASCII. -/
def lowerCase (text : String) : String := text.map Char.toLower

/-- What the names of settings begin with. -/
def variableStart : List Char := "sift_".toList

/-- A dot for every two underscores. -/
def dotted : List Char → List Char
  | '_' :: '_' :: text => '.' :: dotted text
  | c :: text => c :: dotted text
  | [] => []

/-- The key of the setting that a variable names. -/
def settingKey? (name : String) : Option String :=
  let lower := (lowerCase name).toList
  if variableStart.isPrefixOf lower then
    some (String.ofList (dotted (lower.drop variableStart.length)))
  else none

/-- The 64-bit integer that a text spells, with or without a sign. -/
def integer? (text : String) : Option Int := do
  let (negative, digits) := Text.takeSign text.toList
  let value ← Text.natural? digits
  let value := Text.signed negative value
  if Decimal.isSigned value then some value else none

/-- What the value of a variable is taken for. -/
def guess (text : String) : Scalar :=
  if lowerCase text = "true" then .boolean true
  else if lowerCase text = "false" then .boolean false
  else
    match integer? text, Decimal.spelled? text.toList with
    | some value, _ => .integer value
    | none, some value => .float value
    | none, none => .text text

/-- The source of settings from variables, for messages. -/
def variablesSource : String := "the environment"

/-- What the variables say. -/
def ofVariables (environment : Environment) : List (String × Item) :=
  environment.filterMap fun (name, value) =>
    (settingKey? name).map fun key => (key, .scalar (some variablesSource) (guess value))

end Suppression.Settings
