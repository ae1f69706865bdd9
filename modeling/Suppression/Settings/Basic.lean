/-!
# Settings

What the program can be told once and for all: the filter and the width of written
reports, and the name of a tool that does not name itself.
-/

namespace Suppression

namespace Settings

/-- Settings for filtering. -/
structure Filtering where
  /-- The filter. -/
  patterns : String := ""
  /-- Spaces for each level of a written report. -/
  indent : Nat := 4
  deriving DecidableEq, Repr

/-- Settings for tallies. -/
structure Reporting where
  /-- Names the tool of a report that does not. -/
  toolName : Option String := none
  deriving DecidableEq, Repr

/-- Names a tool that neither the report nor the settings name. -/
def unknownTool : String := "unknown"

/-- The name for a tool that does not name itself. -/
def Reporting.fallback (reporting : Reporting) : String :=
  reporting.toolName.getD unknownTool

end Settings

/-- All settings. -/
structure Settings where
  /-- Settings for filtering. -/
  filtering : Settings.Filtering := {}
  /-- Settings for tallies. -/
  reporting : Settings.Reporting := {}
  deriving DecidableEq, Repr

/-- The variables that the program was started with, whose names and values are Unicode texts. -/
abbrev Environment := List (String × String)

/-- The value of a variable. -/
def Environment.value? (environment : Environment) (name : String) : Option String :=
  environment.lookup name

end Suppression
