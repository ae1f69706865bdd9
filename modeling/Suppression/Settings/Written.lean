import Suppression.Settings.Basic
import Suppression.Toml.Writer

/-!
# Settings as a settings file

Settings are written in the format of a settings file, so that a file with this content
gives them again.
-/

namespace Suppression.Settings

/-- One line that gives a text. -/
def textLine (key text : String) : String :=
  key ++ " = " ++ String.ofList (Toml.writeText text.toList) ++ "\n"

/-- The content of a settings file that gives these settings. A width is written whatever
its size, although the readers of the format take only numbers below 2 ^ 63. -/
def written (settings : Settings) : String :=
  "[filter]\n" ++ textLine "patterns" settings.filtering.patterns ++
    "indent = " ++ toString settings.filtering.indent ++ "\n\n[report]\n" ++
    settings.reporting.toolName.elim "" (textLine "tool_name")

end Suppression.Settings
