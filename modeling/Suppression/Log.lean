/-!
# Log entries

What the operations report while they work: a level, a line of text, and the area of the
program that reports it. An entry may be made on an occasion, such as the filtering of one
file, that the log names in front of it.
-/

namespace Suppression.Log

/-- How much an entry matters. -/
inductive Level where
  /-- Details of single decisions. -/
  | debug
  /-- What an operation as a whole did. -/
  | info
  /-- Something in the input was not as expected. -/
  | warn
  deriving DecidableEq, Repr

/-- The name of a level in a log. -/
def Level.name : Level → String
  | .debug => "DEBUG"
  | .info => "INFO"
  | .warn => "WARN"

/-- The part of the program that reports an entry. -/
inductive Area where
  /-- The program as a whole. -/
  | program
  /-- What all commands share. -/
  | commands
  /-- The command that filters a file. -/
  | filterCommand
  /-- Tasks on files. -/
  | tasks
  /-- The patterns of a filter. -/
  | patterns
  /-- Reading, filtering and writing reports. -/
  | reports
  deriving DecidableEq, Repr

/-- The name by which an area is selected. -/
def Area.name : Area → String
  | .program => "sift"
  | .commands => "sift::commands"
  | .filterCommand => "sift::commands::filter"
  | .tasks => "sift_core::facade"
  | .patterns => "sift_core::filter::pattern"
  | .reports => "sift_core::filter::sarif"

/-- A value that an entry or an occasion carries under a name. -/
structure Detail where
  /-- The name of the value. -/
  name : String
  /-- The value. -/
  value : String
  deriving DecidableEq, Repr

/-- The name and the value. -/
def Detail.line (detail : Detail) : String := detail.name ++ "=" ++ detail.value

/-- One line of a log. -/
structure Entry where
  /-- How much the entry matters. -/
  level : Level
  /-- Where it comes from. -/
  area : Area
  /-- The line itself. -/
  message : String
  /-- What stands behind the line. -/
  details : List Detail := []
  deriving DecidableEq, Repr

/-- An entry of level `debug`. -/
def debug (area : Area) (message : String) : Entry := { level := .debug, area, message }

/-- An entry of level `info`. -/
def info (area : Area) (message : String) : Entry := { level := .info, area, message }

/-- An entry of level `warn`. -/
def warn (area : Area) (message : String) : Entry := { level := .warn, area, message }

/-- The message and the details behind it. -/
def Entry.text (entry : Entry) : String :=
  " ".intercalate (entry.message :: entry.details.map Detail.line)

/-- The level, padded by `width`, and the text. -/
def Entry.line (entry : Entry) (width : Nat) : String :=
  "".pushn ' ' (width - entry.level.name.length) ++ entry.level.name ++ " " ++ entry.text

/-- The names under which an entry carries something. -/
def Entry.names (entry : Entry) : List String := "message" :: entry.details.map Detail.name

/-- Work during which entries are made. -/
structure Occasion where
  /-- How much it matters. -/
  level : Level
  /-- Where it comes from. -/
  area : Area
  /-- The name of the work. -/
  name : String
  /-- What it is done with. -/
  details : List Detail
  deriving DecidableEq, Repr

/-- What stands in front of an entry that is made on the occasion. -/
def Occasion.line (occasion : Occasion) : String :=
  occasion.name ++ "\x7b" ++ " ".intercalate (occasion.details.map Detail.line) ++ "\x7d: "

/-- The names under which an occasion carries something. -/
def Occasion.names (occasion : Occasion) : List String := occasion.details.map Detail.name

end Suppression.Log
