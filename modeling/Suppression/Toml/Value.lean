import Suppression.Toml.Numeral

/-!
# Values of a settings file

What the file format can hold. Dates and times are kept as their normalised texts, and
numbers as they are spelled.
-/

namespace Suppression.Toml

/-- A value that holds no others. -/
inductive Scalar where
  | string (text : String)
  | number (numeral : Numeral)
  | boolean (value : Bool)
  | moment (text : String)
  deriving DecidableEq, Repr

/-- A value of a settings file. -/
inductive Value where
  | scalar (value : Scalar)
  | array (items : List Value)
  | table (fields : List (String × Value))

instance : Inhabited Value := ⟨.table []⟩

/-- Why a text is no settings file. -/
inductive Fault where
  /-- It does not have the form of one. -/
  | malformed
  /-- A key has too many names. -/
  | deepKey
  deriving DecidableEq, Repr

end Suppression.Toml
