import Suppression.Glob.Basic

/-!
# Patterns

A pattern is written as an optional sign, a glob for files, and after a colon an
optional glob for rules: `-**/test/**:java/*`. A backslash in front of a sign, a colon
or a backslash takes its meaning away. In front of anything else it is part of the glob.
-/

namespace Suppression

/-- What is said about the findings that two globs describe. -/
structure Pattern where
  /-- The findings are kept; otherwise they are dropped. -/
  keeps : Bool
  /-- Describes the file of a finding. -/
  file : Glob
  /-- Describes the rule that reported it. -/
  rule : Glob
  deriving DecidableEq

namespace Pattern

/-- Why a text is no pattern. -/
inductive Error where
  /-- The text behind the sign has more than one separating colon. -/
  | manySeparators (expression : String)
  /-- One of the globs is refused. -/
  | glob (error : Glob.GluedStars)
  deriving DecidableEq, Repr

/-- The message for the user. -/
def Error.message : Error → String
  | .manySeparators expression =>
      "Invalid pattern: '" ++ expression ++ "'. Contains more than one separator!"
  | .glob error => error.message

/-- A backslash takes the meaning of this character away. -/
def isEscapable (c : Char) : Bool :=
  c = '+' || c = '-' || c = '\\' || c = ':'

/-- What a leading sign says, and the text behind it. Without a sign findings are kept. -/
def takeSign : List Char → Bool × List Char
  | '-' :: text => (false, text)
  | '+' :: text => (true, text)
  | text => (true, text)

/-- The texts between the colons that no backslash shields, with the backslashes taken
away that were in front of an escapable character. -/
def fields : List Char → List (List Char)
  | [] => [[]]
  | '\\' :: c :: text =>
      if isEscapable c then Text.consFirst c (fields text)
      else Text.consFirst '\\' (Text.consFirst c (fields text))
  | c :: text => if c = ':' then [] :: fields text else Text.consFirst c (fields text)

/-- The glob that describes every rule. -/
def anyRule : String := "**"

/-- The glob with the text of a field. -/
def globOf (field : List Char) : Except Error Glob :=
  (Glob.parse (String.ofList field)).mapError .glob

/-- The pattern that an expression describes. An empty glob for rules describes every
rule, just as a missing one does. -/
def parse (expression : String) : Except Error Pattern :=
  let (keeps, text) := takeSign expression.toList
  match fields text with
  | [file] => return ⟨keeps, ← globOf file, ← globOf anyRule.toList⟩
  | [file, rule] =>
      return ⟨keeps, ← globOf file, ← globOf (if rule = [] then anyRule.toList else rule)⟩
  | _ => .error (.manySeparators (String.ofList text))

/-- Both globs match. -/
def describes (pattern : Pattern) (uri rule : String) : Bool :=
  pattern.rule.accepts rule && pattern.file.accepts uri

end Pattern

end Suppression
