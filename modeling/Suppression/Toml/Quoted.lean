import Suppression.Text.Digits

/-!
# Quoted texts

A text between double quotes has escapes, one between single quotes is taken as it is.
Three quotes in place of one let a text span several lines; a line break right behind
them is skipped.
-/

namespace Suppression.Toml

/-- A character that may stand in a comment or a text as it is. -/
def isPlainChar (c : Char) : Bool :=
  c = '\t' || (32 ≤ c.toNat && c.toNat ≠ 127)

/-- The number that `count` hexadecimal digits spell, and the rest. -/
def readHex : Nat → Nat → List Char → Option (Nat × List Char)
  | 0, value, text => some (value, text)
  | _ + 1, _, [] => none
  | count + 1, value, c :: text => do readHex count (value * 16 + (← Text.hexValue? c)) text

/-- The character with a number of `count` hexadecimal digits. -/
def readCode (count : Nat) (text : List Char) : Option (Char × List Char) := do
  let (code, rest) ← readHex count 0 text
  if code.isValidChar then some (Char.ofNat code, rest) else none

/-- The character that stands behind a backslash. -/
def readEscape : List Char → Option (Char × List Char)
  | 'b' :: text => some ('\x08', text)
  | 't' :: text => some ('\t', text)
  | 'n' :: text => some ('\n', text)
  | 'f' :: text => some ('\x0c', text)
  | 'r' :: text => some ('\r', text)
  | 'e' :: text => some ('\x1b', text)
  | '"' :: text => some ('"', text)
  | '\\' :: text => some ('\\', text)
  | 'x' :: text => readCode 2 text
  | 'u' :: text => readCode 4 text
  | 'U' :: text => readCode 8 text
  | _ => none

/-- A text behind its opening double quote, of at most `fuel` characters. -/
def readBasic : Nat → List Char → Option (List Char × List Char)
  | 0, _ => none
  | fuel + 1, text =>
      match text with
      | [] => none
      | '"' :: rest => some ([], rest)
      | '\\' :: rest => do
          let (c, rest) ← readEscape rest
          let (content, rest) ← readBasic fuel rest
          return (c :: content, rest)
      | c :: rest => do
          guard (isPlainChar c)
          let (content, rest) ← readBasic fuel rest
          return (c :: content, rest)

/-- A text behind its opening single quote. -/
def readLiteral : List Char → Option (List Char × List Char)
  | [] => none
  | '\'' :: rest => some ([], rest)
  | c :: rest => do
      guard (isPlainChar c)
      let (content, rest) ← readLiteral rest
      return (c :: content, rest)

/-- The text behind a line break that stands in front. -/
def skipLineBreak : List Char → List Char
  | '\n' :: text => text
  | '\r' :: '\n' :: text => text
  | text => text

/-- Up to two further quotes behind three of them belong to the text. -/
def closeQuotes (quote : Char) : List Char → List Char × List Char
  | a :: b :: text =>
      if a = quote ∧ b = quote then ([a, b], text)
      else if a = quote then ([a], b :: text)
      else ([], a :: b :: text)
  | [a] => if a = quote then ([a], []) else ([], [a])
  | [] => ([], [])

/-- The character may stand in a text of several lines, in front of `rest`. -/
def isLinesChar (c : Char) (rest : List Char) : Bool :=
  isPlainChar c || c = '\n' || (c = '\r' && rest.head? = some '\n')

/-- The text behind blanks and line breaks. -/
def skipBlankLines : List Char → List Char
  | ' ' :: text => skipBlankLines text
  | '\t' :: text => skipBlankLines text
  | '\n' :: text => skipBlankLines text
  | '\r' :: '\n' :: text => skipBlankLines text
  | text => text

/-- The text behind blanks and a line break, if such stand in front, and behind further
ones. -/
def skipFoldedLine (text : List Char) : Option (List Char) :=
  match text.dropWhile (fun c => c = ' ' || c = '\t') with
  | '\n' :: rest => some (skipBlankLines rest)
  | '\r' :: '\n' :: rest => some (skipBlankLines rest)
  | _ => none

/-- A text of several lines between double quotes, of at most `fuel` characters. A
backslash at the end of a line joins it with the next text. -/
def readBasicLines : Nat → List Char → Option (List Char × List Char)
  | 0, _ => none
  | fuel + 1, text =>
      match text with
      | [] => none
      | '"' :: '"' :: '"' :: rest => some (closeQuotes '"' rest)
      | '\\' :: rest =>
          match skipFoldedLine rest with
          | some rest => readBasicLines fuel rest
          | none => do
              let (c, rest) ← readEscape rest
              let (content, rest) ← readBasicLines fuel rest
              return (c :: content, rest)
      | c :: rest => do
          guard (isLinesChar c rest)
          let (content, rest) ← readBasicLines fuel rest
          return (c :: content, rest)

/-- A text of several lines between single quotes. -/
def readLiteralLines : List Char → Option (List Char × List Char)
  | [] => none
  | '\'' :: '\'' :: '\'' :: rest => some (closeQuotes '\'' rest)
  | c :: rest => do
      guard (isLinesChar c rest)
      let (content, rest) ← readLiteralLines rest
      return (c :: content, rest)

/-- A quoted text, on one line or on several. -/
def readText? : List Char → Option (Option (List Char × List Char))
  | '"' :: '"' :: '"' :: text => some (readBasicLines (text.length + 1) (skipLineBreak text))
  | '\'' :: '\'' :: '\'' :: text => some (readLiteralLines (skipLineBreak text))
  | '"' :: text => some (readBasic (text.length + 1) text)
  | '\'' :: text => some (readLiteral text)
  | _ => none

end Suppression.Toml
