import Suppression.Toml.Value

/-!
# Lines of a settings file

What the lines of a settings file say, before it is known whether it makes sense. Bare
values are still texts, and tables written in place still are lists of fields.
-/

namespace Suppression.Toml

/-- A value as it is spelled. -/
inductive Spelling where
  /-- A quoted text, without its quotes. -/
  | text (content : String)
  /-- A value without quotes. -/
  | bare (word : List Char)
  | array (items : List Spelling)
  /-- Fields with keys that may be dotted. -/
  | table (fields : List (List String × Spelling))

instance : Inhabited Spelling := ⟨.bare []⟩

/-- What a line of a settings file says. -/
inductive Line where
  | blank
  | field (key : List String) (value : Spelling)
  /-- The header of a table. -/
  | table (path : List String)
  /-- The header of an item of an array of tables. -/
  | item (path : List String)

/-- How many names a key may have. -/
def nameLimit : Nat := 80

/-- The key does not have too many names. -/
def checkKey (key : List String) : Except Fault Unit :=
  if key.length ≤ nameLimit then .ok () else .error .deepKey

end Suppression.Toml
