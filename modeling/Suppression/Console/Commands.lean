import Suppression.Console.Answer
import Suppression.Console.Invocation
import Suppression.Sarif.Desk

/-!
# Commands

Every command works on the files, adds to the log, and gives an answer. What the command
line gives goes before the settings.
-/

namespace Suppression.Console

/-- An entry of the log, and what was done when it was made. -/
structure Note where
  /-- What was done, if it was something in particular. -/
  occasion : Option Log.Occasion
  /-- The entry. -/
  entry : Log.Entry
  deriving DecidableEq, Repr

/-- An entry that was made on no special occasion. -/
def Note.plain (entry : Log.Entry) : Note := ⟨none, entry⟩

/-- What a command has done. -/
structure Done where
  /-- The answer, unless the command failed or has nothing to say. -/
  result : Except Failure (Option Answer)
  /-- The files afterwards. -/
  tree : Files.Tree
  /-- The log. -/
  notes : List Note

/-- The settings for filtering, with what the command line gives. -/
def overridden (filtering : Settings.Filtering) (patterns : Option String)
    (indent : Option Nat) : Settings.Filtering where
  patterns := patterns.getD filtering.patterns
  indent := indent.getD filtering.indent

/-- What is logged about the values that the command line gives. -/
def overrideNotes (patterns : Option String) (indent : Option Nat) : List Note :=
  let texts := (patterns.map fun text => "Overriding filter patterns to: " ++ text).toList ++
    (indent.map fun width => "Overriding indent to: " ++ toString width).toList
  texts.map fun text => .plain (Log.debug .filterCommand text)

/-- The occasion of filtering a file. -/
def filterOccasion (input output : String) : Log.Occasion where
  level := .info
  area := .tasks
  name := "filter_sarif_file"
  details := [⟨"input", input⟩, ⟨"output", output⟩]

/-- The notes about an answer that is left out. -/
def quietNotes (quiet : Bool) : List Note :=
  if quiet then [.plain (Log.debug .commands "Quiet mode, skipping filter statistics")] else []

/-- Filter a report into a file. -/
def runFilter (settings : Settings) (quiet : Bool) (input output : String)
    (patterns : Option String) (indent : Option Nat) (tree : Files.Tree) : Done :=
  let filtering := overridden settings.filtering patterns indent
  let (result, desk) := (Sarif.filterFile input output filtering).run.run { tree := tree }
  let notes := overrideNotes patterns indent ++
    desk.log.map (Note.mk (some (filterOccasion input output)))
  match result with
  | .error failure => ⟨.error failure, desk.tree, notes⟩
  | .ok stats =>
      let answer := Answer.filtered input output filtering.patterns stats
      ⟨.ok (if quiet then none else some answer), desk.tree, notes ++ quietNotes quiet⟩

/-- Count the findings of a report, and write the counts if a path is given. -/
def tallyTask (settings : Settings) (input : String) (report : Option String) :
    Sarif.Task Sarif.Tally := do
  let tally ← Sarif.tallyFile input settings.reporting
  match report with
  | none => return tally
  | some path => do
      Sarif.writeTally path settings.filtering.indent tally
      return tally

/-- Count the findings of a report. -/
def runSummary (settings : Settings) (input : String) (report : Option String)
    (tree : Files.Tree) : Done :=
  let (result, desk) := (tallyTask settings input report).run.run { tree := tree }
  ⟨result.map fun tally => some (.tallied tally report), desk.tree, desk.log.map .plain⟩

/-- Show the patterns of a filter. -/
def runPatterns (filter : String) (tree : Files.Tree) : Done :=
  ⟨match Filter.compile filter with
    | .error cause => .error (.filter cause)
    | .ok patterns => .ok (some (.compiled filter patterns)),
    tree, (Filter.compileLog filter).map .plain⟩

/-- Do what a command says. -/
def Command.run (environment : Environment) (settings : Settings) (quiet : Bool)
    (tree : Files.Tree) : Command → Done
  | .filter input output text? width? =>
      runFilter settings quiet input output text? width? tree
  | .summary input report? => runSummary settings input report? tree
  | .patterns text => runPatterns text tree
  | .configPath =>
      let path := Settings.filePath environment
      ⟨.ok (some (.settingsPath path (tree.isFile path))), tree, []⟩
  | .configShow => ⟨.ok (some (.effective settings)), tree, []⟩

end Suppression.Console
