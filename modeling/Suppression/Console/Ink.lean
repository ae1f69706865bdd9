/-!
# Inks

Parts of an answer may be set off by colours or weight. On paper without colours an ink
leaves no trace.
-/

namespace Suppression.Console

/-- Ways to set off a part of an answer. -/
inductive Ink where
  | red
  | green
  | yellow
  | cyan
  | bold
  | dim
  deriving DecidableEq, Repr

/-- The code of an ink. -/
def Ink.code : Ink → String
  | .red => "31"
  | .green => "32"
  | .yellow => "33"
  | .cyan => "36"
  | .bold => "1"
  | .dim => "2"

/-- What an answer is written on. -/
inductive Paper where
  /-- Colours are left out. -/
  | plain
  /-- Colours are shown. -/
  | coloured
  deriving DecidableEq, Repr

/-- Begins a code. -/
def escape : String := "\x1b["

/-- A text in an ink. -/
def Paper.write (paper : Paper) (ink : Ink) (text : String) : String :=
  match paper with
  | .plain => text
  | .coloured => escape ++ ink.code ++ "m" ++ text ++ escape ++ "0m"

/-- A text with blanks behind it, up to a width. -/
def column (width : Nat) (text : String) : String :=
  text ++ "".pushn ' ' (width - text.length)

end Suppression.Console
