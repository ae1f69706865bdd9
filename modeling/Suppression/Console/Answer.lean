import Suppression.Filter.Pattern
import Suppression.Sarif.Document
import Suppression.Settings.Basic

/-!
# Answers

What the commands answer. An answer is a document that other programs can read; for
people there are other ways to write it.
-/

namespace Suppression.Console

open Json (Value)

/-- The answer to a command. -/
inductive Answer where
  /-- A report was filtered. -/
  | filtered (input output filter : String) (stats : Sarif.Stats)
  /-- The findings of a report were counted, and the counts may have been written. -/
  | tallied (tally : Sarif.Tally) (report : Option String)
  /-- The patterns of a filter. -/
  | compiled (filter : String) (patterns : List Pattern)
  /-- The path of the settings file, which may be there. -/
  | settingsPath (path : String) (isThere : Bool)
  /-- The settings. -/
  | effective (settings : Settings)

/-- A pattern as a document. -/
def patternDocument (pattern : Pattern) : Value := .object [
  ("sign", .bool pattern.keeps),
  ("file_pattern", .string pattern.file.source),
  ("rule_pattern", .string pattern.rule.source)]

/-- Settings as fields of an object. -/
def settingsFields (settings : Settings) : List (String × Value) := [
  ("filter", .object [
    ("patterns", .string settings.filtering.patterns),
    ("indent", .ofNat settings.filtering.indent)]),
  ("report", .object [
    ("tool_name", settings.reporting.toolName.elim .null .string)])]

/-- The fields of an answer. -/
def Answer.fields : Answer → List (String × Value)
  | .filtered input output filter stats => [
      ("input", .string input),
      ("output", .string output),
      ("patterns", .string filter),
      ("stats", stats.document)]
  | .tallied tally report =>
      tally.fields ++ (report.map fun path => ("report", Value.string path)).toList
  | .compiled filter patterns => [
      ("filter", .string filter),
      ("patterns", .array (patterns.map patternDocument))]
  | .settingsPath path isThere => [("path", .string path), ("exists", .bool isThere)]
  | .effective settings => settingsFields settings

/-- An answer as a document. -/
def Answer.document (answer : Answer) : Value := .object answer.fields

end Suppression.Console
