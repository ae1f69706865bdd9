import Suppression.Text.Hidden

/-!
# Quoting a text for a message

A text in a message stands between quotes. Quotes and backslashes get a backslash,
some controls have a letter, and every other character without a picture of its own is
written by its number.
-/

namespace Suppression.Text

/-- A number with hexadecimal digits in lower case. -/
def hexadecimal (n : Nat) : String := String.ofList (Nat.toDigits 16 n)

/-- How a character is written between quotes. -/
def quotedChar (c : Char) : String :=
  if c = '"' then "\\\""
  else if c = '\\' then "\\\\"
  else if c = '\n' then "\\n"
  else if c = '\r' then "\\r"
  else if c = '\t' then "\\t"
  else if c.toNat = 0 then "\\0"
  else if isHidden c then "\\u\x7b" ++ hexadecimal c.toNat ++ "\x7d"
  else c.toString

/-- The text between quotes. -/
def quoted (text : String) : String :=
  "\"" ++ String.join (text.toList.map quotedChar) ++ "\""

end Suppression.Text
