import Suppression.Text.Digits

/-!
# Writing quoted texts

A text is written without escapes if there is a way to do so. The ways are tried in this
order: between double quotes, between single quotes, and between three of the one or
the other.
-/

namespace Suppression.Toml

/-- A control character, apart from the tab and the line feed. -/
def isControl (c : Char) : Bool :=
  (c.toNat < 32 && c ≠ '\t' && c ≠ '\n') || c.toNat = 127

/-- The most copies of `c` that stand side by side, if `run` of them stand in front. -/
def longestRun (c : Char) : Nat → List Char → Nat
  | run, [] => run
  | run, other :: text =>
      if other = c then longestRun c (run + 1) text else max run (longestRun c 0 text)

/-- Ways to quote a text. -/
inductive Quoting where
  /-- Double quotes, on one line. -/
  | basic
  /-- Single quotes, on one line. -/
  | literal
  /-- Three double quotes. -/
  | basicLines
  /-- Three single quotes. -/
  | literalLines
  deriving DecidableEq, Repr

namespace Quoting

/-- A text has a written form without escapes. -/
def keepsAsIs (text : List Char) : Quoting → Bool
  | .basic => !text.any isControl && !text.contains '\\' && !text.contains '"'
      && !text.contains '\n'
  | .literal => !text.any isControl && !text.contains '\'' && !text.contains '\n'
  | .basicLines => !text.any isControl && !text.contains '\\' && longestRun '"' 0 text ≤ 2
  | .literalLines => !text.any isControl && longestRun '\'' 0 text ≤ 2

/-- The way to quote a text. Where none is without escapes, a text of several lines has
three double quotes, and any other text has one. -/
def of (text : List Char) : Quoting :=
  (([.basic, .literal, .basicLines, .literalLines] : List Quoting).find? (·.keepsAsIs text)).getD
    (if text.contains '\n' then .basicLines else .basic)

/-- The quotes in front of a text and behind it. -/
def marks : Quoting → List Char
  | .basic => ['"']
  | .literal => ['\'']
  | .basicLines => ['"', '"', '"']
  | .literalLines => ['\'', '\'', '\'']

/-- What stands between the opening quotes and the text. A line break is skipped there. -/
def lead (text : List Char) : Quoting → List Char
  | .basicLines => if text.contains '\n' then ['\n'] else []
  | .literalLines => if text.contains '\n' then ['\n'] else []
  | _ => []

end Quoting

/-- How a character other than a quote is written between double quotes. A line feed is
written as it is in a text of several lines. -/
def writeChar (lines : Bool) (c : Char) : List Char :=
  if c = '\\' then ['\\', '\\']
  else if c = '\x08' then ['\\', 'b']
  else if c = '\t' then ['\\', 't']
  else if c = '\n' then (if lines then ['\n'] else ['\\', 'n'])
  else if c = '\x0c' then ['\\', 'f']
  else if c = '\r' then ['\\', 'r']
  else if isControl c then
    ['\\', 'u', '0', '0', Text.upperHexDigit (c.toNat / 16), Text.upperHexDigit (c.toNat % 16)]
  else [c]

/-- How a text is written between double quotes. In a text of several lines two quotes
may stand side by side; `run` of them stand in front. -/
def writeBasic (lines : Bool) : Nat → List Char → List Char
  | _, [] => []
  | run, c :: text =>
      if c = '"' then
        if run < (if lines then 2 else 0) then c :: writeBasic lines (run + 1) text
        else '\\' :: c :: writeBasic lines 0 text
      else writeChar lines c ++ writeBasic lines 0 text

/-- What is written for a text, between the quotes. -/
def Quoting.content (text : List Char) : Quoting → List Char
  | .basic => writeBasic false 0 text
  | .literal => text
  | .basicLines => writeBasic true 0 text
  | .literalLines => text

/-- The written form of a text. -/
def writeText (text : List Char) : List Char :=
  let quoting := Quoting.of text
  quoting.marks ++ quoting.lead text ++ quoting.content text ++ quoting.marks

end Suppression.Toml
