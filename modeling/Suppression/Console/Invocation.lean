/-!
# Invocations

What the program can be told on its command line: a command, and how to answer.
-/

namespace Suppression.Console

/-- The formats of an answer. -/
inductive Format where
  | text
  | json
  | yaml
  | markdown
  deriving DecidableEq, Repr

/-- The name of a format. -/
def Format.name : Format → String
  | .text => "text"
  | .json => "json"
  | .yaml => "yaml"
  | .markdown => "markdown"

/-- The format with a name. -/
def Format.ofName? (name : String) : Option Format :=
  ([.text, .json, .yaml, .markdown] : List Format).find? (·.name = name)

/-- What to do. -/
inductive Command where
  /-- Filter a report into a file. What is given here goes before the settings. -/
  | filter (input output : String) (patterns : Option String) (indent : Option Nat)
  /-- Count the findings of a report, and write the counts to a file. -/
  | summary (input : String) (report : Option String)
  /-- Show the patterns of a filter. -/
  | patterns (filter : String)
  /-- Show where the settings file is expected. -/
  | configPath
  /-- Show the settings. -/
  | configShow
  deriving DecidableEq, Repr

/-- The files that a command reads or writes. -/
def Command.paths : Command → List String
  | .filter input output _ _ => [input, output]
  | .summary input report => input :: report.toList
  | _ => []

/-- A command, and how to answer it. -/
structure Invocation where
  /-- What to do. -/
  command : Command
  /-- The format of the answer. -/
  format : Format := .text
  /-- Leave out the answer of a filter command. -/
  quiet : Bool := false
  /-- Say more, and show more of the log. -/
  verbose : Bool := false
  deriving DecidableEq, Repr

end Suppression.Console
