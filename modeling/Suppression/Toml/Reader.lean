import Suppression.Toml.Quoted
import Suppression.Toml.Scalar
import Suppression.Toml.Tables

/-!
# Reading settings files

A settings file is a list of lines: fields, headers of tables, headers of arrays of
tables, comments. Arrays and tables may also be written in place, and nest at most 80
deep.
-/

namespace Suppression.Toml

/-- The text behind spaces and tabs. -/
def skipSpaces (text : List Char) : List Char :=
  text.dropWhile fun c => c = ' ' || c = '\t'

/-- The text behind a comment. -/
def skipComment (text : List Char) : Option (List Char) :=
  match text with
  | '#' :: rest =>
      let behind := rest.dropWhile isPlainChar
      match behind with
      | [] => some behind
      | '\n' :: _ => some behind
      | '\r' :: '\n' :: _ => some behind
      | _ => none
  | _ => some text

/-- The text behind the end of a line, which a comment may precede. -/
def skipLineEnd (text : List Char) : Option (List Char) := do
  match ← skipComment (skipSpaces text) with
  | [] => some []
  | '\n' :: rest => some rest
  | '\r' :: '\n' :: rest => some rest
  | _ => none

/-- The text behind spaces, comments and line breaks. -/
def skipGap : Nat → List Char → Option (List Char)
  | 0, _ => none
  | fuel + 1, text => do
      match ← skipComment (skipSpaces text) with
      | '\n' :: rest => skipGap fuel rest
      | '\r' :: '\n' :: rest => skipGap fuel rest
      | rest => some rest

/-- As `skipGap`, for the whole text. -/
def skipLines (text : List Char) : Option (List Char) := skipGap (text.length + 1) text

/-- A character of a key without quotes. -/
def isBareKeyChar (c : Char) : Bool :=
  c.isAlphanum || c = '_' || c = '-'

/-- One name of a key. -/
def readName (text : List Char) : Option (String × List Char) :=
  match text with
  | '"' :: rest => do
      let (name, rest) ← readBasic (rest.length + 1) rest
      return (String.ofList name, rest)
  | '\'' :: rest => do
      let (name, rest) ← readLiteral rest
      return (String.ofList name, rest)
  | _ =>
      let name := text.takeWhile isBareKeyChar
      if name = [] then none else some (String.ofList name, text.drop name.length)

/-- The names of a key, with dots between them, at most `fuel` of them. -/
def readNames : Nat → List Char → Option (List String × List Char)
  | 0, _ => none
  | fuel + 1, text => do
      let (name, rest) ← readName (skipSpaces text)
      match skipSpaces rest with
      | '.' :: rest => do
          let (names, rest) ← readNames fuel rest
          return (name :: names, rest)
      | rest => return ([name], rest)

/-- A key, which may be dotted, and the text behind it and its blanks. -/
def readKey (text : List Char) : Option (List String × List Char) :=
  readNames (text.length + 1) text

section Containers

variable (readItem : List Char → Option (Spelling × List Char))

/-- The items of an array, at most `fuel` of them. -/
def readItems : Nat → List Char → Option (List Spelling × List Char)
  | 0, _ => none
  | fuel + 1, text => do
      match ← skipLines text with
      | ']' :: rest => some ([], rest)
      | text => do
          let (item, rest) ← readItem text
          match ← skipLines rest with
          | ']' :: rest => return ([item], rest)
          | ',' :: rest => do
              let (items, rest) ← readItems fuel rest
              return (item :: items, rest)
          | _ => none

/-- A field: a key, an equals sign and a value. The text between them is skipped. -/
def readField (skip : List Char → Option (List Char)) (text : List Char) :
    Option ((List String × Spelling) × List Char) := do
  let (key, rest) ← readKey text
  match ← skip rest with
  | '=' :: rest => do
      let (value, rest) ← readItem (← skip rest)
      return ((key, value), rest)
  | _ => none

/-- The fields of a table written in place, at most `fuel` of them. -/
def readFields : Nat → List Char → Option (List (List String × Spelling) × List Char)
  | 0, _ => none
  | fuel + 1, text => do
      match ← skipLines text with
      | '\x7d' :: rest => some ([], rest)
      | text => do
          let (field, rest) ← readField readItem skipLines text
          match ← skipLines rest with
          | '\x7d' :: rest => return ([field], rest)
          | ',' :: rest => do
              let (fields, rest) ← readFields fuel rest
              return (field :: fields, rest)
          | _ => none

end Containers

/-- A value in which arrays and tables nest at most `depth` deep. -/
def readSpelling (depth : Nat) (text : List Char) : Option (Spelling × List Char) :=
  match text with
  | '[' :: rest =>
      match depth with
      | 0 => none
      | depth + 1 => do
          let (items, rest) ← readItems (readSpelling depth) (rest.length + 1) rest
          return (.array items, rest)
  | '\x7b' :: rest =>
      match depth with
      | 0 => none
      | depth + 1 => do
          let (fields, rest) ← readFields (readSpelling depth) (rest.length + 1) rest
          return (.table fields, rest)
  | _ =>
      match readText? text with
      | some outcome => do
          let (content, rest) ← outcome
          return (.text (String.ofList content), rest)
      | none =>
          let (bare, rest) := takeBare text
          some (.bare bare, rest)

/-- How deep arrays and tables may nest. -/
def depthLimit : Nat := 80

/-- A line that is a header. -/
def readHeader (text : List Char) : Option (Line × List Char) := do
  match text with
  | '[' :: text => do
      let (path, rest) ← readKey text
      match rest with
      | ']' :: ']' :: rest => return (.item path, rest)
      | _ => none
  | text => do
      let (path, rest) ← readKey text
      match rest with
      | ']' :: rest => return (.table path, rest)
      | _ => none

/-- What a line says, and the text behind that. -/
def readStatement (text : List Char) : Option (Line × List Char) :=
  match skipSpaces text with
  | [] => some (.blank, [])
  | '[' :: rest => readHeader rest
  | c :: rest =>
      if c = '#' ∨ c = '\n' ∨ c = '\r' then some (.blank, c :: rest)
      else do
        let ((key, value), rest) ←
          readField (readSpelling depthLimit) (some ∘ skipSpaces) (c :: rest)
        return (.field key value, rest)

/-- A line, and the text behind its end. -/
def readLine (text : List Char) : Option (Line × List Char) := do
  let (line, rest) ← readStatement text
  return (line, ← skipLineEnd rest)

/-- The lines of a settings file, at most `fuel` of them. -/
def readLines : Nat → List Char → Option (List Line)
  | 0, _ => none
  | fuel + 1, text =>
      match text with
      | [] => some []
      | _ => do
          let (line, rest) ← readLine text
          return line :: (← readLines fuel rest)

/-- The text behind a byte order mark that stands in front. -/
def skipMark : List Char → List Char
  | '\ufeff' :: text => text
  | text => text

/-- The fields of a settings file, or why the text is none. Its form is looked at as a
whole, before it is found out what its lines say. -/
def read (text : String) : Except Fault (List (String × Value)) := do
  ofLines (← orMalformed (readLines (text.length + 1) (skipMark text.toList)))

end Suppression.Toml
