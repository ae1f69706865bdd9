import Suppression.Text.Pieces
import Suppression.Yaml.Text

/-!
# Blocks of lines

A text of several lines and a long text are written below the key, one level deeper. The
sign in front of a block says whether its lines are joined, where its lines begin if they
begin with blanks, and how many line breaks are at its end.
-/

namespace Suppression.Yaml

/-- A text that is longer than this does not stay on one line. -/
def lineWidth : Nat := 80

/-- A single blank stands behind the character at `place`, between two others. -/
def breaksBehind (text : List Char) (place : Nat) : Bool :=
  match text.drop place with
  | before :: ' ' :: behind :: _ => before ≠ ' ' && behind ≠ ' '
  | _ => false

/-- The last character of the longest line that ends in front of a single blank. The blank
has to be on the line as well. -/
def lineEnd? (text : List Char) : Option Nat :=
  (List.range (lineWidth - 1)).reverse.find? (breaksBehind text)

/-- The lines of a folded text. What is left is one line if it is short, or if it cannot
be broken in time. -/
def foldedLines (text : List Char) : List (List Char) :=
  if text.length ≤ lineWidth then [text]
  else
    match lineEnd? text with
    | none => [text]
    | some place => text.take (place + 1) :: foldedLines (text.drop (place + 2))
termination_by text.length
decreasing_by
  rw [List.length_drop]
  omega

/-- The text without the line breaks at its end. -/
def withoutFinalBreaks (text : List Char) : List Char :=
  (text.reverse.dropWhile (· = '\n')).reverse

/-- The number of line breaks at the end of a text. -/
def finalBreaks (text : List Char) : Nat :=
  (text.reverse.takeWhile (· = '\n')).length

/-- What the sign of a block says about the line breaks at its end. -/
def finalSign : Nat → List Char
  | 0 => ['-']
  | 1 => []
  | _ => ['+']

/-- The lines of a block that keeps them. A text of line breaks only has one of them. -/
def keptLines (text : List Char) : List (List Char) :=
  if withoutFinalBreaks text = [] then [[]]
  else
    Text.pieces (· = '\n') (withoutFinalBreaks text) ++ List.replicate (finalBreaks text - 1) []

/-- The sign of a block that keeps its lines, which stand behind `indent` spaces. Their
number is given if the first line that is not empty begins with a space itself. -/
def keptSign (indent : Nat) (text : List Char) : List Char :=
  let depth := if (text.dropWhile (· = '\n')).head? = some ' ' then Nat.toDigits 10 indent else []
  '|' :: depth ++ finalSign (finalBreaks text)

/-- The written form of a text. -/
inductive Form where
  /-- On the line of its key. -/
  | line (content : List Char)
  /-- Below its key. -/
  | block (sign : List Char) (lines : List (List Char))
  deriving DecidableEq, Repr

/-- How a text is written as a value. Its block would stand behind `indent` spaces. Short
lines have no block if they need quotes. -/
def Form.of (indent : Nat) (text : List Char) : Form :=
  let isLong := lineWidth < text.length
  if text.contains '\n' then
    if isLong || arePlainLines (withoutFinalBreaks text) then
      .block (keptSign indent text) (keptLines text)
    else .line (quoted text)
  else if !isPlainValue text || isLoneSign text then .line (quoted text)
  else if isLong then .block ['>', '-'] (foldedLines text)
  else .line text

end Suppression.Yaml
