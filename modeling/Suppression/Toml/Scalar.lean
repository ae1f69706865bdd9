import Suppression.Toml.Value

/-!
# Bare values

Booleans, numbers, dates and times are written without quotes. A bare value is read as
a whole: its characters are collected first and then have to spell one of these.
-/

namespace Suppression.Toml

/-- Two digits that do not exceed `limit`. -/
def readPair (limit : Nat) : List Char → Option (Nat × List Char)
  | a :: b :: text => do
      let value := (← digitBelow 10 a) * 10 + (← digitBelow 10 b)
      if value ≤ limit then some (value, text) else none
  | _ => none

/-- A number with two digits at least. -/
def twoDigits (value : Nat) : String :=
  if value < 10 then "0" ++ toString value else toString value

/-- The days of a month. -/
def daysIn (year month : Nat) : Nat :=
  if month = 2 then
    if year % 4 = 0 ∧ (year % 100 ≠ 0 ∨ year % 400 = 0) then 29 else 28
  else if month = 4 ∨ month = 6 ∨ month = 9 ∨ month = 11 then 30
  else 31

/-- A date, as its text and the rest. -/
def readDate (text : List Char) : Option (String × List Char) := do
  let (century, rest) ← readPair 99 text
  let (year, rest) ← readPair 99 rest
  let '-' :: rest := rest | none
  let (month, rest) ← readPair 12 rest
  let '-' :: rest := rest | none
  let (day, rest) ← readPair 31 rest
  if month = 0 ∨ day = 0 ∨ daysIn (century * 100 + year) month < day then none
  else
    return (twoDigits century ++ twoDigits year ++ "-" ++ twoDigits month ++ "-" ++ twoDigits day,
      rest)

/-- The text without zeros at its end. -/
def dropZeros (text : List Char) : List Char := (text.reverse.dropWhile (· = '0')).reverse

/-- The fraction of a second, to nine places, and the rest. A fraction of zeros keeps one
of them. -/
def readSecondFraction : List Char → Option (String × List Char)
  | '.' :: text =>
      let digits := text.takeWhile Char.isDigit
      let shown := dropZeros (digits.take 9)
      if digits = [] then none
      else some ("." ++ String.ofList (if shown = [] then ['0'] else shown),
        text.drop digits.length)
  | text => some ("", text)

/-- A time of day, as its text and the rest. The seconds may be left out. -/
def readTime (text : List Char) : Option (String × List Char) := do
  let (hour, rest) ← readPair 23 text
  let ':' :: rest := rest | none
  let (minute, rest) ← readPair 59 rest
  let start := twoDigits hour ++ ":" ++ twoDigits minute
  match rest with
  | ':' :: rest => do
      let (second, rest) ← readPair 60 rest
      let (fraction, rest) ← readSecondFraction rest
      return (start ++ ":" ++ twoDigits second ++ fraction, rest)
  | _ => return (start, rest)

/-- The distance from universal time, as its text. It is no longer than a day. -/
def readOffset : List Char → Option String
  | [] => some ""
  | ['Z'] => some "Z"
  | ['z'] => some "Z"
  | sign :: text => do
      let (hours, rest) ← readPair 24 text
      let ':' :: rest := rest | none
      let (minutes, rest) ← readPair (if hours = 24 then 0 else 59) rest
      let negative := sign = '-' && hours + minutes ≠ 0
      if rest ≠ [] ∨ (sign ≠ '+' ∧ sign ≠ '-') then none
      else
        return (if negative then "-" else "+") ++ twoDigits hours ++ ":" ++ twoDigits minutes

/-- A date, a time, or both with or without an offset. -/
def readMoment? (text : List Char) : Option String :=
  match readDate text with
  | some (date, []) => some date
  | some (date, c :: rest) => do
      if c = 'T' ∨ c = 't' ∨ c = ' ' then
        let (time, rest) ← readTime rest
        return date ++ "T" ++ time ++ (← readOffset rest)
      else none
  | none =>
      match readTime text with
      | some (time, []) => some time
      | _ => none

/-- The value that a bare text spells. -/
def readBare? (text : List Char) : Option Scalar :=
  if text = ['t', 'r', 'u', 'e'] then some (.boolean true)
  else if text = ['f', 'a', 'l', 's', 'e'] then some (.boolean false)
  else ((readMoment? text).map .moment).or ((readNumeral? text).map .number)

/-- These end a bare value. -/
def bareEnds : List Char :=
  ['=', ',', '[', ']', '\x7b', '\x7d', '#', ' ', '\t', '\n', '\r']

/-- A character of a bare value. -/
def isBareValueChar (c : Char) : Bool := !bareEnds.contains c

/-- The characters of a bare value and the rest. A blank may stand between a date and a
time. -/
def takeBare (text : List Char) : List Char × List Char :=
  let first := text.takeWhile isBareValueChar
  let rest := text.drop first.length
  match readDate first, rest with
  | some (_, []), ' ' :: c :: _ =>
      if c.isDigit then
        let second := (rest.drop 1).takeWhile isBareValueChar
        (first ++ ' ' :: second, rest.drop (second.length + 1))
      else (first, rest)
  | _, _ => (first, rest)

end Suppression.Toml
