import Suppression.Console.Arguments
import Suppression.Console.Commands
import Suppression.Console.Markdown
import Suppression.Log.Selection
import Suppression.Text.Digits
import Suppression.Yaml.Writer

/-!
# The program

A run of the program takes its arguments, its variables and the files, and has an
outcome: an exit code, what it writes on its two outputs, and the files afterwards. The
arguments are read first, then the settings are loaded, then the command is done.

Arguments, variables and paths are Unicode texts. So every answer can be shown in every
format, while a document could not spell any other path. The two outputs take all that is
written on them, and a run does not fail once its command has been done.
-/

namespace Suppression.Console

/-- What a run of the program leaves. -/
structure Outcome where
  /-- Zero after success. -/
  code : Nat
  /-- The answer. -/
  output : String := ""
  /-- What went wrong. -/
  errors : String := ""
  /-- The shown lines of the log. -/
  log : List String := []
  /-- The files afterwards. -/
  tree : Files.Tree

/-- The exit code after a failure. -/
def failureCode : Nat := 1

/-- The exit code if the arguments do not fit. -/
def misuseCode : Nat := 2

/-- The exit code if the program breaks off. -/
def abortCode : Nat := 101

/-- The name of the program and its version. -/
def versionLine : String := line "sift 0.1.0"

/-- A failure with its cause, and a tip for the user. -/
def explain (settingsPath : String) (failure : Failure) : String :=
  match failure with
  | .filter _ => failure.message ++
      "\n\nTip: Run \x60sift patterns '<filter>'\x60 to see how a filter expression is compiled."
  | .unopened _ cause => failure.message ++ ": " ++ cause.message ++
      "\n\nTip: Check that the input path exists and is readable."
  | .unreadable _ cause => failure.message ++ ": " ++ cause.message ++
      "\n\nTip: The input must be a SARIF (JSON object) document."
  | .unwritable _ cause => failure.message ++ ": " ++ cause.message ++
      "\n\nTip: Check that the output directory exists and is writable."
  | .settings _ => failure.message ++ "\n\nTip: Check your config file at " ++ settingsPath ++
      " and SIFT_* environment variables."
  | .tooWide _ => failure.message

/-- What is written about a failure. -/
def errorLine (text : String) : String := line ("Error: " ++ text)

/-- The exit code after this failure. -/
def exitCode (failure : Failure) : Nat :=
  match failure with
  | .tooWide _ => abortCode
  | _ => failureCode

/-- The paper that the variables ask for. -/
def paperOf (environment : Environment) : Paper :=
  match environment.value? "CLICOLOR_FORCE" with
  | none => .plain
  | some value => if value = "0" then .plain else .coloured

/-- The answer in a format. It has one in each, as the paths in it are texts. -/
def Answer.print (format : Format) (paper : Paper) (verbose : Bool) (answer : Answer) :
    String :=
  match format with
  | .text => answer.prose paper verbose
  | .json => line (answer.document.indented 2)
  | .yaml => line (Yaml.write answer.fields)
  | .markdown => answer.markdown paper verbose

/-- How a character of a message is shown in the log. -/
def shownChar (c : Char) : List Char :=
  if c = '\x1b' then ['\\', 'x', '1', 'b']
  else if c = '\x07' then ['\\', 'x', '0', '7']
  else if c = '\x08' then ['\\', 'x', '0', '8']
  else if c = '\x0c' then ['\\', 'x', '0', 'c']
  else if c = '\x7f' then ['\\', 'x', '7', 'f']
  else if 128 ≤ c.toNat ∧ c.toNat < 160 then
    ['\\', 'u', '\x7b', Text.hexDigit (c.toNat / 16), Text.hexDigit (c.toNat % 16), '\x7d']
  else [c]

/-- The variable that selects entries of the log. -/
def selectionName : String := "RUST_LOG"

/-- The entries that are shown: those that a variable asks for, or else the warnings, and
everything if the log is to be verbose. The name of every area begins with the program's. -/
def selectionOf (environment : Environment) (verbose : Bool) : Log.Selection :=
  ((environment.value? selectionName).bind Log.Selection.read?).getD
    (.upTo Log.Area.program.name (if verbose then .debug else .warn))

/-- The line of a note, if it is shown. -/
def Note.line? (selection : Log.Selection) (note : Note) : Option String :=
  if selection.shows note.occasion note.entry then
    let occasion := note.occasion.filter selection.showsOccasion
    let message := String.ofList (note.entry.message.toList.flatMap shownChar)
    some (Log.Entry.line
      { note.entry with message := (occasion.map Log.Occasion.line).getD "" ++ message } 5)
  else none

/-- Do what an invocation says, with these settings. -/
def Invocation.run (environment : Environment) (settings : Settings) (tree : Files.Tree)
    (invocation : Invocation) : Outcome :=
  let done := invocation.command.run environment settings invocation.quiet tree
  let notes := .plain (Log.debug .program "Configuration loaded successfully") :: done.notes
  let log := notes.filterMap (Note.line? (selectionOf environment invocation.verbose))
  match done.result with
  | .error failure =>
      { code := exitCode failure
        errors := errorLine (explain (Settings.filePath environment) failure)
        log := log
        tree := done.tree }
  | .ok none => { code := 0, log := log, tree := done.tree }
  | .ok (some answer) =>
      { code := 0
        output := answer.print invocation.format (paperOf environment) invocation.verbose
        log := log
        tree := done.tree }

/-- Run the program. -/
def run (arguments : List String) (environment : Environment) (tree : Files.Tree) : Outcome :=
  match readArguments arguments with
  | .error .misuse => { code := misuseCode, tree := tree }
  | .error .version => { code := 0, output := versionLine, tree := tree }
  | .ok invocation =>
      let path := Settings.filePath environment
      match Settings.load tree environment path with
      | .error problem =>
          { code := failureCode
            errors := errorLine (explain path (.settings problem))
            tree := tree }
      | .ok settings => invocation.run environment settings tree

end Suppression.Console
