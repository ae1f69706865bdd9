import Suppression.Json.Number
import Suppression.Text.Digits
import Suppression.Text.Utf8

/-!
# Reading documents

A document is read from bytes. It has to be an object, and nothing but blanks may
follow. Arrays and objects nest at most 127 deep. When a key occurs twice, the field
keeps its first place and takes its last value.

The readers of parts take a limit on the length of strings, arrays and objects. It is
chosen once for a document, as the number of its bytes, which none of them exceeds.
-/

namespace Suppression.Json

/-- The bytes behind leading blanks. -/
def skipBlanks (bytes : List UInt8) : List UInt8 :=
  bytes.dropWhile fun byte => byte = 0x20 || byte = 0x0A || byte = 0x09 || byte = 0x0D

/-- Read the rest of a word. -/
def readWord : List Char → List UInt8 → Except Stop (List UInt8)
  | [], bytes => .ok bytes
  | _ :: _, [] => .error ⟨.endInValue, []⟩
  | c :: word, byte :: bytes =>
      if byte.toNat = c.toNat then readWord word bytes else .error ⟨.expectedWord, bytes⟩

/-- The value of a hexadecimal digit. -/
def hexValue? (byte : UInt8) : Option Nat :=
  Text.hexValue? (Char.ofNat byte.toNat)

/-- Read the four hexadecimal digits of an escape. -/
def readHex : List UInt8 → Except Stop (Nat × List UInt8)
  | a :: b :: c :: d :: bytes =>
      match hexValue? a, hexValue? b, hexValue? c, hexValue? d with
      | some a, some b, some c, some d => .ok (((a * 16 + b) * 16 + c) * 16 + d, bytes)
      | _, _, _, _ => .error ⟨.badEscape, bytes⟩
  | _ => .error ⟨.endInString, []⟩

/-- Read the second half of a pair of surrogates. -/
def readLowSurrogate (high : Nat) : List UInt8 → Except Stop (Char × List UInt8)
  | [] => .error ⟨.endInString, []⟩
  | 0x5C :: [] => .error ⟨.endInString, []⟩
  | 0x5C :: 0x75 :: bytes => do
      let (low, rest) ← readHex bytes
      if low < 0xDC00 ∨ 0xDFFF < low then .error ⟨.loneSurrogate, rest⟩
      else return (Char.ofNat (0x10000 + (high - 0xD800) * 0x400 + (low - 0xDC00)), rest)
  | 0x5C :: _ :: bytes => .error ⟨.halfSurrogatePair, bytes⟩
  | _ :: bytes => .error ⟨.halfSurrogatePair, bytes⟩

/-- Read the character that four hexadecimal digits stand for. -/
def readCodeEscape (bytes : List UInt8) : Except Stop (Char × List UInt8) := do
  let (code, rest) ← readHex bytes
  if 0xDC00 ≤ code ∧ code ≤ 0xDFFF then .error ⟨.loneSurrogate, rest⟩
  else if 0xD800 ≤ code ∧ code ≤ 0xDBFF then readLowSurrogate code rest
  else return (Char.ofNat code, rest)

/-- Read what stands behind a backslash. -/
def readEscape : List UInt8 → Except Stop (Char × List UInt8)
  | [] => .error ⟨.endInString, []⟩
  | 0x22 :: bytes => .ok ('"', bytes)
  | 0x5C :: bytes => .ok ('\\', bytes)
  | 0x2F :: bytes => .ok ('/', bytes)
  | 0x62 :: bytes => .ok ('\x08', bytes)
  | 0x66 :: bytes => .ok ('\x0c', bytes)
  | 0x6E :: bytes => .ok ('\n', bytes)
  | 0x72 :: bytes => .ok ('\r', bytes)
  | 0x74 :: bytes => .ok ('\t', bytes)
  | 0x75 :: bytes => readCodeEscape bytes
  | _ :: bytes => .error ⟨.badEscape, bytes⟩

/-- Read the bytes of a string up to its closing quote, at most `fuel` characters. -/
def readStringBytes : Nat → List UInt8 → Except Stop (List UInt8 × List UInt8)
  | 0, _ => .error ⟨.endInString, []⟩
  | fuel + 1, bytes =>
      match bytes with
      | [] => .error ⟨.endInString, []⟩
      | 0x22 :: rest => .ok ([], rest)
      | 0x5C :: rest => do
          let (c, rest) ← readEscape rest
          let (content, rest) ← readStringBytes fuel rest
          return (String.utf8EncodeChar c ++ content, rest)
      | byte :: rest => do
          if byte < 0x20 then .error ⟨.controlCharacter, rest⟩
          let (content, rest) ← readStringBytes fuel rest
          return (byte :: content, rest)

/-- Read a string behind its opening quote. If its bytes are no text, reading stops as
many bytes in front of its end as the bad part has once its escapes are resolved. -/
def readString (limit : Nat) (bytes : List UInt8) : Except Stop (String × List UInt8) := do
  let (content, rest) ← readStringBytes limit bytes
  match String.fromUTF8? ⟨content.toArray⟩ with
  | some text => return (text, rest)
  | none =>
      let bad := content.length - Text.soundLength content
      .error ⟨.badText, bytes.drop (bytes.length - rest.length - bad)⟩

section Containers

variable (limit : Nat) (readItem : List UInt8 → Except Stop (Value × List UInt8))

/-- Read the items of an array behind an item, at most `fuel` of them. -/
def readMoreItems : Nat → List UInt8 → Except Stop (List Value × List UInt8)
  | 0, _ => .error ⟨.endInArray, []⟩
  | fuel + 1, bytes =>
      match skipBlanks bytes with
      | [] => .error ⟨.endInArray, []⟩
      | 0x5D :: rest => .ok ([], rest)
      | 0x2C :: rest =>
          match skipBlanks rest with
          | [] => .error ⟨.endInValue, []⟩
          | 0x5D :: rest => .error ⟨.finalComma, rest⟩
          | rest => do
              let (item, rest) ← readItem rest
              let (items, rest) ← readMoreItems fuel rest
              return (item :: items, rest)
      | _ :: rest => .error ⟨.expectedItemEnd, rest⟩

/-- Read an array behind its opening bracket. -/
def readArray (bytes : List UInt8) : Except Stop (Value × List UInt8) :=
  match skipBlanks bytes with
  | [] => .error ⟨.endInArray, []⟩
  | 0x5D :: rest => .ok (.array [], rest)
  | bytes => do
      let (item, rest) ← readItem bytes
      let (items, rest) ← readMoreItems readItem limit rest
      return (.array (item :: items), rest)

/-- Read a field behind the opening quote of its key. -/
def readField (bytes : List UInt8) : Except Stop ((String × Value) × List UInt8) := do
  let (key, rest) ← readString limit bytes
  match skipBlanks rest with
  | [] => .error ⟨.endInObject, []⟩
  | 0x3A :: rest =>
      let (value, rest) ← readItem rest
      return ((key, value), rest)
  | _ :: rest => .error ⟨.expectedColon, rest⟩

/-- Read the fields of an object behind a field, at most `fuel` of them. -/
def readMoreFields : Nat → List UInt8 → Except Stop (List (String × Value) × List UInt8)
  | 0, _ => .error ⟨.endInObject, []⟩
  | fuel + 1, bytes =>
      match skipBlanks bytes with
      | [] => .error ⟨.endInObject, []⟩
      | 0x7D :: rest => .ok ([], rest)
      | 0x2C :: rest =>
          match skipBlanks rest with
          | [] => .error ⟨.endInValue, []⟩
          | 0x7D :: rest => .error ⟨.finalComma, rest⟩
          | 0x22 :: rest => do
              let (field, rest) ← readField limit readItem rest
              let (fields, rest) ← readMoreFields fuel rest
              return (field :: fields, rest)
          | _ :: rest => .error ⟨.keyNotString, rest⟩
      | _ :: rest => .error ⟨.expectedFieldEnd, rest⟩

/-- Give every key its first place and its last value. -/
def mergeFields (fields : List (String × Value)) : List (String × Value) :=
  fields.foldl (fun merged (key, value) => putField key value merged) []

/-- Read an object behind its opening bracket. -/
def readObject (bytes : List UInt8) : Except Stop (Value × List UInt8) :=
  match skipBlanks bytes with
  | [] => .error ⟨.endInObject, []⟩
  | 0x7D :: rest => .ok (.object [], rest)
  | 0x22 :: rest => do
      let (field, rest) ← readField limit readItem rest
      let (fields, rest) ← readMoreFields limit readItem limit rest
      return (.object (mergeFields (field :: fields)), rest)
  | _ :: rest => .error ⟨.keyNotString, rest⟩

end Containers

/-- Read a value that begins with `byte` and is no array or object. -/
def readScalar (limit : Nat) (byte : UInt8) (rest : List UInt8) :
    Except Stop (Value × List UInt8) :=
  match byte with
  | 0x6E => do return (.null, ← readWord ['u', 'l', 'l'] rest)
  | 0x74 => do return (.bool true, ← readWord ['r', 'u', 'e'] rest)
  | 0x66 => do return (.bool false, ← readWord ['a', 'l', 's', 'e'] rest)
  | 0x22 => do
      let (text, rest) ← readString limit rest
      return (.string text, rest)
  | 0x2D => do
      let (number, rest) ← readNumber true rest
      return (.number number, rest)
  | _ =>
      if (digit? byte).isSome then do
        let (number, rest) ← readNumber false (byte :: rest)
        return (.number number, rest)
      else .error ⟨.expectedValue, rest⟩

/-- Read a value in which arrays and objects nest at most `depth` deep. -/
def readValue (limit depth : Nat) (bytes : List UInt8) : Except Stop (Value × List UInt8) :=
  match skipBlanks bytes with
  | [] => .error ⟨.endInValue, []⟩
  | 0x5B :: rest =>
      match depth with
      | 0 => .error ⟨.tooDeep, rest⟩
      | depth + 1 => readArray limit (readValue limit depth) rest
  | 0x7B :: rest =>
      match depth with
      | 0 => .error ⟨.tooDeep, rest⟩
      | depth + 1 => readObject limit (readValue limit depth) rest
  | byte :: rest => readScalar limit byte rest

/-- What a value that is no object is called in a message. -/
def Found.ofValue : Value → Found
  | .bool value => .bool value
  | .number (.integer value) => .integer value
  | .number (.float value) => .float value
  | .string value => .string value
  | .array _ => .sequence
  | _ => .null

/-- How deep arrays and objects may nest. -/
def depthLimit : Nat := 127

/-- Read an object, and stop at anything else. -/
def readRoot (limit : Nat) (bytes : List UInt8) : Except Stop (Value × List UInt8) :=
  match skipBlanks bytes with
  | [] => .error ⟨.endInValue, []⟩
  | 0x7B :: rest => readObject limit (readValue limit (depthLimit - 1)) rest
  | 0x5B :: rest => .error ⟨.notObject .sequence, rest⟩
  | byte :: rest => do
      let (value, behind) ← readScalar limit byte rest
      let seen := match value with
        | .number _ => behind.drop 1
        | _ => behind
      .error ⟨.notObject (.ofValue value), seen⟩

/-- Nothing but blanks may stand behind the document. -/
def readEnd (bytes : List UInt8) : Except Stop Unit :=
  match skipBlanks bytes with
  | [] => .ok ()
  | _ :: rest => .error ⟨.textBehind, rest⟩

/-- The place up to which bytes were looked at, when `unseen` of them were not. -/
def placeOf (bytes : List UInt8) (stop : Stop) : Failure :=
  ⟨stop.cause, .after (bytes.take (bytes.length - stop.unseen.length))⟩

/-- The document that a text holds. -/
def read (bytes : List UInt8) : Except Failure Value :=
  let outcome := do
    let (value, rest) ← readRoot (bytes.length + 1) bytes
    readEnd rest
    return value
  outcome.mapError (placeOf bytes)

end Suppression.Json
