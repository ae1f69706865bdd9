import Suppression.Json.Writer
import Suppression.Text.Quoted

/-!
# Why a text is no document

A failure names its cause and the place up to which the text was looked at.
-/

namespace Suppression.Json

/-- What was found where an object was expected. -/
inductive Found where
  | null
  | bool (value : Bool)
  | integer (value : Int)
  | float (value : Float)
  | string (value : String)
  | sequence

/-- What was found, for a message. -/
def Found.describe : Found → String
  | .null => "null"
  | .bool true => "boolean `true`"
  | .bool false => "boolean `false`"
  | .integer value => "integer `" ++ toString value ++ "`"
  | .float value => "floating point `" ++ (Number.float value).write ++ "`"
  | .string value => "string " ++ Text.quoted value
  | .sequence => "sequence"

/-- Why reading stopped. -/
inductive Cause where
  | endInArray
  | endInObject
  | endInString
  | endInValue
  | expectedColon
  | expectedItemEnd
  | expectedFieldEnd
  | expectedWord
  | expectedValue
  | badEscape
  | badNumber
  | hugeNumber
  | badText
  | controlCharacter
  | keyNotString
  | loneSurrogate
  | halfSurrogatePair
  | finalComma
  | textBehind
  | tooDeep
  /-- The text is a value, but no object. -/
  | notObject (found : Found)

/-- The message for the user. -/
def Cause.message : Cause → String
  | .endInArray => "EOF while parsing a list"
  | .endInObject => "EOF while parsing an object"
  | .endInString => "EOF while parsing a string"
  | .endInValue => "EOF while parsing a value"
  | .expectedColon => "expected `:`"
  | .expectedItemEnd => "expected `,` or `]`"
  | .expectedFieldEnd => "expected `,` or `\x7d`"
  | .expectedWord => "expected ident"
  | .expectedValue => "expected value"
  | .badEscape => "invalid escape"
  | .badNumber => "invalid number"
  | .hugeNumber => "number out of range"
  | .badText => "invalid unicode code point"
  | .controlCharacter => "control character (\\u0000-\\u001F) found while parsing a string"
  | .keyNotString => "key must be a string"
  | .loneSurrogate => "lone leading surrogate in hex escape"
  | .halfSurrogatePair => "unexpected end of hex escape"
  | .finalComma => "trailing comma"
  | .textBehind => "trailing characters"
  | .tooDeep => "recursion limit exceeded"
  | .notObject found => "invalid type: " ++ found.describe ++ ", expected a map"

/-- A place in a text: the number of the line, and of the last byte seen on it. -/
structure Position where
  /-- Lines count from one. -/
  line : Nat
  /-- Bytes seen on the line. -/
  column : Nat
  deriving DecidableEq, Repr

/-- The place behind these bytes. -/
def Position.after (bytes : List UInt8) : Position :=
  bytes.foldl
    (fun place byte => if byte = 0x0A then ⟨place.line + 1, 0⟩ else ⟨place.line, place.column + 1⟩)
    ⟨1, 0⟩

/-- Why and where reading a document failed. -/
structure Failure where
  /-- Why reading stopped. -/
  cause : Cause
  /-- The place up to which the text was looked at. -/
  position : Position

/-- The message for the user. -/
def Failure.message (failure : Failure) : String :=
  failure.cause.message ++ " at line " ++ toString failure.position.line ++
    " column " ++ toString failure.position.column

end Suppression.Json
