import Suppression.Files.Tree
import Suppression.Filter.Pattern
import Suppression.Json.Failure
import Suppression.Settings.Load

/-!
# Failures

Why the program cannot do what it was told. The user can mend some failures in the
filter or in the settings; the others lie in the files.
-/

namespace Suppression

/-- Why what was opened is no report. -/
inductive Unreadable where
  /-- It has no bytes to read. -/
  | bytes (cause : Files.Cause)
  /-- Its bytes are no object. -/
  | document (cause : Json.Failure)

/-- The message for the user. -/
def Unreadable.message : Unreadable → String
  | .bytes cause => cause.message
  | .document cause => cause.message

/-- Why the program cannot do what it was told. -/
inductive Failure where
  /-- An expression of the filter is no pattern. -/
  | filter (cause : Pattern.Error)
  /-- A report cannot be opened. -/
  | unopened (path : String) (cause : Files.Cause)
  /-- What was opened is no report. -/
  | unreadable (path : String) (cause : Unreadable)
  /-- A file cannot be made. -/
  | unwritable (path : String) (cause : Files.Cause)
  /-- The settings cannot be loaded. -/
  | settings (cause : Settings.Problem)
  /-- The spaces of one level do not fit into memory. -/
  | tooWide (indent : Nat)

namespace Failure

/-- What went wrong, without the cause that a file gives. -/
def message : Failure → String
  | .filter cause => cause.message
  | .unopened path _ => "Failed to open sarif file " ++ path
  | .unreadable path _ => "Failed to decode the JSON in " ++ path
  | .unwritable path _ => "Failed to write report " ++ path
  | .settings cause => cause.message
  | .tooWide _ => "capacity overflow"

/-- The user can mend it in the filter or in the settings. -/
def isConfiguration : Failure → Bool
  | .filter _ => true
  | .settings _ => true
  | _ => false

end Failure

end Suppression
