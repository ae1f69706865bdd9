import Suppression.Decimal.Limits
import Suppression.Failure
import Suppression.Filter.Basic
import Suppression.Json.Reader
import Suppression.Json.Writer
import Suppression.Sarif.Document
import Suppression.Sarif.Pass
import Suppression.Text.Utf8

/-!
# Reports in files

Reports are read from files, filtered or tallied, and written to files. A task works on
a desk: the file tree it changes, and the log it adds to. A task that fails leaves the
desk as it was at that moment. The filter is compiled before the report is read, and the
report is read before the output file is made.
-/

namespace Suppression.Sarif

open Json (Value)

/-- What a task works on. -/
structure Desk where
  /-- The files. -/
  tree : Files.Tree
  /-- What was reported, in its order. -/
  log : List Log.Entry := []

/-- Work on a desk that may fail. -/
abbrev Task := ExceptT Failure (StateM Desk)

namespace Task

/-- Add entries to the log. -/
def report (entries : List Log.Entry) : Task Unit :=
  modify fun desk => { desk with log := desk.log ++ entries }

/-- Give a result, or fail. -/
def attempt {α ε : Type} (failure : ε → Failure) (result : Except ε α) : Task α :=
  match result with
  | .ok value => pure value
  | .error cause => throw (failure cause)

end Task

/-- The report in a file. -/
def read (tree : Files.Tree) (path : String) : Except Failure Value := do
  let opened ← (tree.openNode path).mapError (.unopened path)
  let bytes ← opened.bytes.mapError fun cause => .unreadable path (.bytes cause)
  (Json.read bytes).mapError fun cause => .unreadable path (.document cause)

/-- Read the report in a file. -/
def readFile (path : String) : Task Value := do
  let report ← Task.attempt id (read (← get).tree path)
  Task.report [Log.debug .reports ("Read sarif document from " ++ path)]
  return report

/-- More spaces than this do not fit into memory. -/
def greatestWidth : Nat := Decimal.halfSize - 1

/-- The content of a file that holds a document. -/
def fileContent (indent : Nat) (document : Value) : List UInt8 :=
  Text.encode (document.indented indent ++ "\n")

/-- Write a document to a file. The file is made, or made empty, before the spaces of a
level are. -/
def writeFile (path : String) (indent : Nat) (document : Value) : Task Unit := do
  let (place, tree) ← Task.attempt (.unwritable path) ((← get).tree.create path)
  modify fun desk => { desk with tree := tree }
  if greatestWidth < indent then throw (.tooWide indent)
  modify fun desk =>
    { desk with tree := desk.tree.set place (.file (fileContent indent document)) }

/-- What filtering a file reports in the end. -/
def Stats.announcement (stats : Stats) : Log.Entry where
  level := .info
  area := .tasks
  message := "Filtered sarif file"
  details := [⟨"results_before", toString stats.resultsBefore⟩,
    ⟨"results_after", toString stats.resultsAfter⟩,
    ⟨"locations_removed", toString stats.locationsRemoved⟩,
    ⟨"malformed_entries", toString stats.malformed⟩]

/-- Write what a filter leaves of the report in one file to another one. -/
def filterFile (input output : String) (filtering : Settings.Filtering) : Task Stats := do
  Task.report (Filter.compileLog filtering.patterns)
  let patterns ← Task.attempt .filter (Filter.compile filtering.patterns)
  let report ← readFile input
  let (report, account) := pass patterns report
  Task.report (account.events.map Event.entry)
  writeFile output filtering.indent report
  Task.report [Log.info .reports ("Successfully written the JSON log to " ++ output),
    account.stats.announcement]
  return account.stats

/-- Count the findings of the report in a file. -/
def tallyFile (input : String) (reporting : Settings.Reporting) : Task Tally := do
  return tally reporting.fallback (← readFile input)

/-- Write a tally to a file. -/
def writeTally (path : String) (indent : Nat) (tally : Tally) : Task Unit := do
  writeFile path indent tally.document
  Task.report [Log.info .tasks ("Wrote findings summary to " ++ path)]

end Suppression.Sarif
