import Suppression.Files.Name
import Suppression.Settings.Decoding
import Suppression.Text.Utf8
import Suppression.Toml.Reader

/-!
# Loading settings

Settings that are given nowhere have a value of their own. A settings file takes
precedence over that, and a variable over the file. A file that is not there, or whose
name does not end in `.toml`, gives nothing.
-/

namespace Suppression.Settings

/-- Why settings cannot be loaded. -/
inductive Problem where
  /-- The settings file is no file of its format. -/
  | malformed
  /-- A key of the settings file has too many names. -/
  | deepKey (file : String)
  /-- A number of the settings file has no value. -/
  | badNumber (cause : Toml.NumeralFault) (file : String)
  /-- A setting was given in the wrong way. -/
  | mismatch (cause : Mismatch)

/-- What the problem is. -/
def Problem.describe : Problem → String
  | .malformed => "TOML parse error"
  | .deepKey file => "recursion limit\n in " ++ file
  | .badNumber cause file => cause.message ++ " in " ++ file
  | .mismatch cause => cause.message

/-- The message for the user. -/
def Problem.message (problem : Problem) : String := "Configuration error: " ++ problem.describe

/-- What is wrong with the text of a file. -/
def Problem.ofFault (file : String) : Toml.Fault → Problem
  | .malformed => .malformed
  | .deepKey => .deepKey file

/-- A path with a name behind it. -/
def join (path name : String) : String :=
  if path = "" ∨ path.toList.getLast? = some '/' then path ++ name else path ++ "/" ++ name

/-- The directory of the settings file. -/
def directory (environment : Environment) : String :=
  match (environment.value? "XDG_CONFIG_HOME").filter (· ≠ "") with
  | some base => join base "sift"
  | none => join (join ((environment.value? "HOME").getD "") ".config") "sift"

/-- The path of the settings file. -/
def filePath (environment : Environment) : String :=
  join (directory environment) "config.toml"

/-- The end of the names of settings files. -/
def fileEnd : String := "toml"

/-- Keeps the end of a name from being replaced. -/
def guardEnd : String := ".placeholder"

/-- The path that is tried if there is no file at a path: with the usual end behind the
file name. An end that the name has already stays, and what stands behind the name in the
path then makes a name of its own. -/
def fallbackPath? (path : String) : Option String :=
  Files.withNameEnd? (if (Files.nameEnd? path).isSome then path ++ guardEnd else path) fileEnd

/-- The path of the file that settings are read from. -/
def locate (tree : Files.Tree) (path : String) : Option String :=
  if tree.isFile path then (some path).filter fun path => Files.nameEnd? path = some fileEnd
  else (fallbackPath? path).filter tree.isFile

/-- The text of a settings file. A byte order mark in front is skipped. -/
def fileText (bytes : List UInt8) : String :=
  match bytes with
  | 0xEF :: 0xBB :: 0xBF :: rest => Text.decode rest
  | _ => Text.decode bytes

/-- What the text of a settings file says. -/
def ofText (file text : String) : Except Problem (List (String × Item)) := do
  let fields ← (Toml.read text).mapError (.ofFault file)
  (Item.ofFields file fields).mapError (.badNumber · file)

/-- What the settings file says. -/
def ofFile (tree : Files.Tree) (path : String) : Except Problem (List (String × Item)) :=
  match locate tree path with
  | none => .ok []
  | some path =>
      match tree.content path with
      | .error _ => .ok []
      | .ok bytes => ofText (Files.shortPath path) (fileText bytes)

/-- The settings that a file and the variables give. -/
def load (tree : Files.Tree) (environment : Environment) (path : String) :
    Except Problem Settings := do
  let file ← ofFile tree path
  let merged := ((Item.table none []).overlaySource file).overlaySource (ofVariables environment)
  merged.toSettings.mapError .mismatch

end Suppression.Settings
