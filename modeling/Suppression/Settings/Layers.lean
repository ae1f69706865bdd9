import Suppression.Decimal.Limits
import Suppression.Text.Digits
import Suppression.Toml.Value

/-!
# Layers of settings

Settings come from several sources, one laid over the other. Tables are merged field by
field; anything else replaces what was there. Values remember their source.
-/

namespace Suppression.Settings

/-- A value that holds no others. -/
inductive Scalar where
  | boolean (value : Bool)
  | integer (value : Int)
  | float (value : Float)
  | text (value : String)

/-- What a source says about a setting or a group of settings. -/
inductive Item where
  /-- Nothing is said. -/
  | missing
  | scalar (source : Option String) (value : Scalar)
  | array (source : Option String) (items : List Item)
  | table (source : Option String) (fields : List (String × Item))

instance : Inhabited Item := ⟨.missing⟩

namespace Item

/-- Change the item of a key, or add one. -/
def changeField (key : String) (change : Item → Item) :
    List (String × Item) → List (String × Item)
  | [] => [(key, change .missing)]
  | (other, item) :: fields =>
      if other = key then (other, change item) :: fields
      else (other, item) :: changeField key change fields

/-- Change the item of a key. What is no table becomes one. -/
def changeKey (key : String) (change : Item → Item) : Item → Item
  | .table source fields => .table source (changeField key change fields)
  | _ => .table none [(key, change .missing)]

/-- Change an item of an array; a negative place counts from the end. The array grows as
far as needed, and what is no array becomes one. -/
def changePlace (place : Int) (change : Item → Item) (item : Item) : Item :=
  let (source, items) := match item with
    | .array source items => (source, items)
    | _ => (none, [])
  let items :=
    if 0 ≤ place then items ++ List.replicate (place.toNat + 1 - items.length) .missing
    else List.replicate (place.natAbs - items.length) .missing ++ items
  let place := if 0 ≤ place then place.toNat else items.length - place.natAbs
  .array source (items.modify place change)

mutual

/-- An item with another one laid over it. -/
def overlay (item : Item) : Item → Item
  | .table _ fields =>
      overlayFields (match item with | .missing => .table none [] | other => other) fields
  | upper => upper

/-- An item with fields laid over its own. -/
def overlayFields (item : Item) : List (String × Item) → Item
  | [] => item
  | (key, upper) :: fields =>
      overlayFields (item.changeKey key fun lower => lower.overlay upper) fields

end

/-- A value of a settings file, with the file as its source. -/
def ofScalar (source : String) : Toml.Scalar → Except Toml.NumeralFault Item
  | .string text => .ok (.scalar (some source) (.text text))
  | .number (.integer base text) => do
      return .scalar (some source) (.integer (← Toml.Numeral.toInteger base text))
  | .number (.fraction text) => do
      return .scalar (some source) (.float (← Toml.Numeral.toFloat text))
  | .boolean value => .ok (.scalar (some source) (.boolean value))
  | .moment text => .ok (.scalar (some source) (.text text))

mutual

/-- What a settings file says. -/
def ofValue (source : String) : Toml.Value → Except Toml.NumeralFault Item
  | .scalar value => ofScalar source value
  | .array items => do return .array (some source) (← ofItems source items)
  | .table fields => do return .table (some source) (← ofFields source fields)

/-- What the items of an array say. -/
def ofItems (source : String) : List Toml.Value → Except Toml.NumeralFault (List Item)
  | [] => .ok []
  | item :: items => do return (← ofValue source item) :: (← ofItems source items)

/-- What the fields of a table say. -/
def ofFields (source : String) :
    List (String × Toml.Value) → Except Toml.NumeralFault (List (String × Item))
  | [] => .ok []
  | (key, value) :: fields => do
      return (key, ← ofValue source value) :: (← ofFields source fields)

end

end Item

/-- One step to a setting within its group. -/
inductive Step where
  | key (name : String)
  | place (index : Int)
  deriving DecidableEq, Repr

/-- The way to a setting, as in `filter.indent` or `list[0]`. -/
structure KeyPath where
  /-- The outermost group. -/
  root : String
  /-- The steps from there. -/
  steps : List Step
  deriving DecidableEq, Repr

namespace KeyPath

/-- A character of a name. -/
def isNameChar (c : Char) : Bool :=
  c.isAlphanum || c = '_' || c = '-'

/-- The name that a text begins with, if it begins with one. -/
def takeName (text : List Char) : Option (String × List Char) :=
  let name := text.takeWhile isNameChar
  if name = [] then none else some (String.ofList name, text.drop name.length)

/-- The text behind spaces and tabs. -/
def skipSpaces (text : List Char) : List Char :=
  text.dropWhile fun c => c = ' ' || c = '\t'

/-- A place between brackets, behind the opening one. There may be blanks around it. -/
def takePlace (text : List Char) : Option (Int × List Char) :=
  let (negative, text) := match skipSpaces text with
    | '-' :: rest => (true, rest)
    | text => (false, text)
  let digits := text.takeWhile Char.isDigit
  match Text.natural? digits, skipSpaces (text.drop digits.length) with
  | some value, ']' :: rest =>
      if value < Decimal.halfSize then some (Text.signed negative value, rest) else none
  | _, _ => none

/-- The steps that a text spells, at most `fuel` of them. -/
def takeSteps : Nat → List Char → Option (List Step)
  | _, [] => some []
  | 0, _ => none
  | fuel + 1, '.' :: text => do
      let (name, rest) ← takeName text
      return .key name :: (← takeSteps fuel rest)
  | fuel + 1, '[' :: text => do
      let (place, rest) ← takePlace text
      return .place place :: (← takeSteps fuel rest)
  | _, _ => none

/-- The path that a text spells. A text that spells none is a name as a whole. -/
def ofText (text : String) : KeyPath :=
  let path : Option KeyPath := do
    let (root, rest) ← takeName text.toList
    return ⟨root, ← takeSteps rest.length rest⟩
  path.getD ⟨text, []⟩

end KeyPath

/-- Change the item at the end of some steps. -/
def Item.changeAt (change : Item → Item) : List Step → Item → Item
  | [], item => change item
  | .key name :: steps, item => item.changeKey name (changeAt change steps)
  | .place index :: steps, item => item.changePlace index (changeAt change steps)

/-- Lay an item over what stands at the path that a key spells. -/
def Item.overlayAt (item : Item) (key : String) (upper : Item) : Item :=
  let path := KeyPath.ofText key
  item.changeAt (fun lower => lower.overlay upper) (.key path.root :: path.steps)

/-- Lay all that a source says over an item. -/
def Item.overlaySource (item : Item) (source : List (String × Item)) : Item :=
  source.foldl (fun item (key, upper) => item.overlayAt key upper) item

end Suppression.Settings
