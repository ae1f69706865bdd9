import Suppression.Text.Blank
import Suppression.Text.Digits

/-!
# Texts in YAML

A text is written as it is where it cannot be taken for something else, and between
quotes otherwise. Keys and values have rules of their own, since a key may not hold what
ends a key, or what has a meaning within brackets.
-/

namespace Suppression.Yaml

/-- Words that stand for nothing, in lower case. -/
def emptyWords : List String := ["~", "null"]

/-- Words that stand for truth values, in lower case. Blanks around them do not matter. -/
def truthWords : List String := ["true", "false", "yes", "no", "on", "off", "y", "n"]

/-- Words that stand for numbers, in lower case and without a sign. -/
def numberWords : List String := [".inf", ".nan", "inf", "nan"]

/-- The text is one of some words, in whatever case. -/
def isWordOf (words : List String) (text : List Char) : Bool :=
  String.ofList (text.map Char.toLower) ∈ words

/-- The text behind digits of some kind, among which there may be underscores. The first
one has to be a digit. -/
def skipDigits (isDigit : Char → Bool) (text : List Char) : List Char :=
  if text.head?.any isDigit then text.dropWhile fun c => isDigit c || c = '_' else text

/-- There are such digits and nothing else. -/
def areDigits (isDigit : Char → Bool) (text : List Char) : Bool :=
  text ≠ [] && skipDigits isDigit text = []

/-- What stands behind the digits of a number is nothing, or a power of ten. -/
def isPower : List Char → Bool
  | [] => true
  | mark :: power =>
      (mark = 'e' || mark = 'E') && areDigits Char.isDigit (Text.takeSign power).2

/-- The text is a number with digits in front of the point, behind it, or both. -/
def isDecimal (text : List Char) : Bool :=
  match skipDigits Char.isDigit text with
  | '.' :: fraction =>
      let rest := skipDigits Char.isDigit fraction
      (text.head?.any Char.isDigit || fraction.head?.any Char.isDigit) && isPower rest
  | rest => text.head?.any Char.isDigit && isPower rest

/-- The text could be taken for a number. -/
def looksLikeNumber (text : List Char) : Bool :=
  let unsigned := (Text.takeSign text).2
  isWordOf numberWords unsigned ||
    match unsigned with
    | '0' :: 'x' :: digits => areDigits (fun c => (Text.hexValue? c).isSome) digits
    | '0' :: 'o' :: digits => areDigits (fun c => '0' ≤ c && c ≤ '7') digits
    | '0' :: 'b' :: digits => areDigits (fun c => c = '0' || c = '1') digits
    | digits => isDecimal digits

/-- The text could be taken for something else than a text. -/
def isAmbiguous (text : List Char) : Bool :=
  text = [] || isWordOf emptyWords text || isWordOf truthWords (Text.trim text)
    || looksLikeNumber text

/-- A blank that separates the parts of a document. Other blanks are plain characters. -/
def isSeparator (c : Char) : Bool :=
  c = ' ' || c = '\t' || c = '\n' || c = '\x0c' || c = '\r'

/-- These have a meaning of their own in front of a text. -/
def indicators : List Char :=
  ['[', ']', '\x7b', '\x7d', ',', '#', '&', '*', '!', '|', '>', '\'', '"', '%', '@', '\x60', ':']

/-- These have a meaning of their own in front of a separator. -/
def dashes : List Char := ['-', '?']

/-- These have a meaning of their own within brackets. -/
def bracketSigns : List Char := [',', '[', ']', '\x7b', '\x7d']

/-- A character that is never written as it is. -/
def isControl (c : Char) : Bool :=
  c.toNat < 32 || (127 ≤ c.toNat && c.toNat < 160)

/-- The text does not begin with what has a meaning of its own. -/
def startsPlain : List Char → Bool
  | [] => false
  | c :: text =>
      !isSeparator c && !indicators.contains c && !(dashes.contains c && text.head?.all isSeparator)

/-- A colon stands at the end or in front of a separator. -/
def endsKey : List Char → Bool
  | [] => false
  | c :: text => (c = ':' && text.head?.all isSeparator) || endsKey text

/-- There is nothing in the text that cannot be in any plain text: neither a control
character, nor what starts a comment. A line feed counts as such only if `oneLine`. -/
def isPlain (oneLine : Bool) (text : List Char) : Bool :=
  !isAmbiguous text && startsPlain text && !text.contains '#'
    && !text.any fun c => isControl c && (oneLine || c ≠ '\n')

/-- The lines of a text can be a value as they are. -/
def arePlainLines (text : List Char) : Bool := isPlain false text && !endsKey text

/-- The text can be a value as it is. -/
def isPlainValue (text : List Char) : Bool := isPlain true text && !endsKey text

/-- The text can be a key as it is. -/
def isPlainKey (text : List Char) : Bool :=
  isPlain true text && !text.contains ':' && !text.any bracketSigns.contains

/-- How a character is written between double quotes. -/
def writeChar (c : Char) : List Char :=
  if c = '"' then ['\\', '"']
  else if c = '\\' then ['\\', '\\']
  else if c = '\x00' then ['\\', '0']
  else if c = '\x07' then ['\\', 'a']
  else if c = '\x08' then ['\\', 'b']
  else if c = '\t' then ['\\', 't']
  else if c = '\n' then ['\\', 'n']
  else if c = '\x0b' then ['\\', 'v']
  else if c = '\x0c' then ['\\', 'f']
  else if c = '\r' then ['\\', 'r']
  else if c = '\x1b' then ['\\', 'e']
  else if c = '\u0085' then ['\\', 'N']
  else if c = '\u2028' then ['\\', 'L']
  else if c = '\u2029' then ['\\', 'P']
  else if c = '\ufeff' then ['\\', 'u', 'F', 'E', 'F', 'F']
  else if isControl c then
    ['\\', 'x', Text.upperHexDigit (c.toNat / 16), Text.upperHexDigit (c.toNat % 16)]
  else [c]

/-- The signs that stand between single quotes. -/
def loneSigns : List Char := ['.', '#', '-']

/-- The text is one of these signs and nothing else. -/
def isLoneSign : List Char → Bool
  | [c] => loneSigns.contains c
  | _ => false

/-- A text between quotes. They are single for a lone sign, and double otherwise. -/
def quoted (text : List Char) : List Char :=
  if isLoneSign text then '\'' :: text ++ ['\'']
  else '"' :: text.flatMap writeChar ++ ['"']

/-- How a character of a key is written between double quotes. Control characters without
a letter are written by their number. -/
def writeKeyChar (c : Char) : List Char :=
  if c = '"' then ['\\', '"']
  else if c = '\\' then ['\\', '\\']
  else if c = '\t' then ['\\', 't']
  else if c = '\n' then ['\\', 'n']
  else if c = '\r' then ['\\', 'r']
  else if isControl c then
    ['\\', 'u', '0', '0', Text.upperHexDigit (c.toNat / 16), Text.upperHexDigit (c.toNat % 16)]
  else [c]

/-- The written form of a key. -/
def writeKey (text : List Char) : List Char :=
  if isPlainKey text then text else '"' :: text.flatMap writeKeyChar ++ ['"']

end Suppression.Yaml
