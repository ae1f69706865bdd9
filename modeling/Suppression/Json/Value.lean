/-!
# Documents

A document is a tree of values. The fields of an object keep their order, and looking
up a key finds the first field that has it.
-/

namespace Suppression.Json

/-- A number of a document. -/
inductive Number where
  /-- A whole number, without point or exponent. -/
  | integer (value : Int)
  /-- Any other number. -/
  | float (value : Float)

/-- A value of a document. -/
inductive Value where
  | null
  | bool (value : Bool)
  | number (value : Number)
  | string (value : String)
  | array (items : List Value)
  | object (fields : List (String × Value))

instance : Inhabited Value := ⟨.null⟩

/-- Give a key a value: in its place if there is such a field, otherwise at the end. -/
def putField (key : String) (value : Value) : List (String × Value) → List (String × Value)
  | [] => [(key, value)]
  | (other, old) :: fields =>
      if other = key then (other, value) :: fields
      else (other, old) :: putField key value fields

namespace Value

/-- The value of a key of an object. -/
def get? (key : String) : Value → Option Value
  | .object fields => fields.lookup key
  | _ => none

/-- The value at the end of a path of keys. -/
def at? : List String → Value → Option Value
  | [], value => some value
  | key :: keys, value => (value.get? key).bind (at? keys)

/-- The text, if the value is one. -/
def text? : Value → Option String
  | .string text => some text
  | _ => none

/-- The items, if the value is an array. -/
def items? : Value → Option (List Value)
  | .array items => some items
  | _ => none

/-- The value is an object. -/
def isObject : Value → Bool
  | .object _ => true
  | _ => false

/-- The value of this whole number. -/
def ofNat (n : Nat) : Value := .number (.integer n)

end Value

theorem lookup_putField_self (key : String) (value : Value) (fields : List (String × Value)) :
    (putField key value fields).lookup key = some value := by
  induction fields with
  | nil => simp [putField]
  | cons field fields ih =>
      obtain ⟨other, old⟩ := field
      by_cases hkey : other = key
      · simp [putField, hkey]
      · have hne : (key == other) = false := by simpa using fun h => hkey h.symm
        simp [putField, List.lookup_cons, hkey, hne, ih]

theorem lookup_putField_of_ne {key other : String} (h : other ≠ key) (value : Value)
    (fields : List (String × Value)) :
    (putField key value fields).lookup other = fields.lookup other := by
  induction fields with
  | nil =>
      have hne : (other == key) = false := by simpa using h
      simp [putField, List.lookup_cons, hne]
  | cons field fields ih =>
      obtain ⟨name, old⟩ := field
      by_cases hname : name = key
      · subst hname
        have hne : (other == name) = false := by simpa using h
        simp [putField, List.lookup_cons, hne]
      · simp only [putField, hname, if_false, List.lookup_cons]
        cases other == name <;> simp [ih]

end Suppression.Json
