import Suppression.Console.Prose

/-!
# Answers in Markdown

Answers for pages that show Markdown. Texts of the report and of the filter are put into
the page as they are.
-/

namespace Suppression.Console

/-- The rows about what a filter command did. -/
def filteredRows (stats : Sarif.Stats) : List String := [
  "| | Before | After | Removed |",
  "|---|---:|---:|---:|",
  "| Results | " ++ toString stats.resultsBefore ++ " | " ++ toString stats.resultsAfter ++
    " | " ++ toString stats.resultsRemoved ++ " |",
  "| Locations | " ++ toString stats.locationsBefore ++ " | " ++
    toString (stats.locationsBefore - stats.locationsRemoved) ++ " | " ++
    toString stats.locationsRemoved ++ " |"]

/-- What a filter command did. -/
def filteredMarkdown (output filter : String) (stats : Sarif.Stats) : List String :=
  ["## SARIF Filter", "", "**Output:** \x60" ++ output ++ "\x60", ""] ++
  (if filter = "" then [] else ["**Patterns:** \x60" ++ filter ++ "\x60", ""]) ++
  filteredRows stats ++
  (if stats.malformed = 0 then []
   else ["", toString stats.malformed ++ " malformed entries were kept unchanged."])

/-- The row of a rule. -/
def ruleRow (count : String × Nat) : String :=
  "| \x60" ++ count.1 ++ "\x60 | " ++ toString count.2 ++ " |"

/-- The row of a level. -/
def levelRow (count : String × Nat) : String :=
  "| " ++ count.1 ++ " | " ++ toString count.2 ++ " |"

/-- What was counted. -/
def talliedMarkdown (tally : Sarif.Tally) : List String :=
  ["## Findings Summary", "", "**Tool:** " ++ tally.toolName, "",
   "**Total:** " ++ toString tally.total, ""] ++
  (if tally.byRule.isEmpty then []
   else ["| Rule | Findings |", "|---|---:|"] ++ tally.byRule.map ruleRow ++
     ["", "| Level | Findings |", "|---|---:|"] ++ tally.byLevel.map levelRow)

/-- The row of a pattern, which is the one with this number. -/
def markdownPatternRow (number : Nat) (pattern : Pattern) : String :=
  "| " ++ toString number ++ " | " ++ actionName pattern.keeps ++ " | \x60" ++
    pattern.file.source ++ "\x60 | \x60" ++ pattern.rule.source ++ "\x60 |"

/-- The patterns of a filter. -/
def patternsMarkdown (patterns : List Pattern) : List String :=
  ["## Filter Patterns", "", "| # | Action | File | Rule |", "|---:|---|---|---|"] ++
    (patterns.zipIdx 1).map fun (pattern, number) => markdownPatternRow number pattern

/-- An answer in Markdown. The path of the settings file is written as in words. -/
def Answer.markdown (paper : Paper) (verbose : Bool) : Answer → String
  | .filtered _ output filter stats => lines (filteredMarkdown output filter stats)
  | .tallied tally _ => lines (talliedMarkdown tally)
  | .compiled _ patterns => lines (patternsMarkdown patterns)
  | .settingsPath path isThere => (Answer.settingsPath path isThere).prose paper verbose
  | .effective settings =>
      lines ["## Configuration", "", "\x60\x60\x60toml"] ++ settings.written ++
        line "\x60\x60\x60"

end Suppression.Console
