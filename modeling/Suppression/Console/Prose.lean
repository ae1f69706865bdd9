import Suppression.Console.Answer
import Suppression.Console.Ink
import Suppression.Settings.Written

/-!
# Answers in words

Answers for people who read them at a terminal.
-/

namespace Suppression.Console

/-- A line. -/
def line (text : String) : String := text ++ "\n"

/-- Lines below each other. -/
def lines (texts : List String) : String := String.join (texts.map line)

/-- A row of hyphens. -/
def rule (width : Nat) : String := "".pushn '-' width

/-- What a pattern does to a finding. -/
def actionName (keeps : Bool) : String := if keeps then "include" else "exclude"

/-- What was done about the malformed parts of a report. -/
def malformedProse (paper : Paper) (malformed : Nat) : List String :=
  if malformed = 0 then []
  else ["  " ++ paper.write .red (toString malformed ++ " malformed entries kept unchanged")]

/-- Further lines about a filter command. -/
def filteredDetails (paper : Paper) (input filter : String) (stats : Sarif.Stats) :
    List String := [
  "  Input:     " ++ input,
  "  Runs:      " ++ toString stats.runs,
  "  Patterns:  " ++ (if filter = "" then paper.write .dim "(none)" else filter)]

/-- What a filter command did. -/
def filteredProse (paper : Paper) (verbose : Bool) (input output filter : String)
    (stats : Sarif.Stats) : List String :=
  [paper.write .green "✓" ++ " Wrote " ++ paper.write .bold output,
   "  Results:   " ++ toString stats.resultsBefore ++ " -> " ++ toString stats.resultsAfter ++
     " (" ++ paper.write .yellow (toString stats.resultsRemoved) ++ " removed)",
   "  Locations: " ++ paper.write .yellow (toString stats.locationsRemoved) ++
     " removed of " ++ toString stats.locationsBefore] ++
  malformedProse paper stats.malformed ++
  (if verbose then filteredDetails paper input filter stats else [])

/-- The table of a tally. -/
def tallyTable (paper : Paper) (tally : Sarif.Tally) : List String :=
  ["  " ++ paper.write .cyan (column 50 "Rule") ++ " " ++ paper.write .cyan "Findings",
   "  " ++ paper.write .dim (rule 60)] ++
  (tally.byRule.map fun (name, total) => "  " ++ column 50 name ++ " " ++ toString total) ++
  ["",
   "  Levels: " ++ ", ".intercalate
     (tally.byLevel.map fun (level, total) => level ++ ": " ++ toString total)]

/-- What was counted. -/
def talliedProse (paper : Paper) (tally : Sarif.Tally) (report : Option String) :
    List String :=
  ["",
   paper.write .bold (toString tally.total ++ " findings reported by " ++ tally.toolName),
   ""] ++
  (if tally.total = 0 then [paper.write .green "Nothing to report."]
   else tallyTable paper tally) ++
  (report.elim [] fun path => ["", paper.write .green "✓" ++ " Wrote report to " ++ path]) ++
  [""]

/-- The row of a pattern, which is the one with this number. -/
def patternRow (paper : Paper) (number : Nat) (pattern : Pattern) : String :=
  "  " ++ column 4 (toString number) ++ " " ++
    paper.write (if pattern.keeps then .green else .red) (column 8 (actionName pattern.keeps)) ++
    " " ++ column 40 pattern.file.source ++ " " ++ pattern.rule.source

/-- The patterns of a filter. -/
def patternsProse (paper : Paper) (patterns : List Pattern) : List String :=
  if patterns.isEmpty then [paper.write .yellow "No patterns: every finding is kept."]
  else
    ["  " ++ paper.write .cyan (column 4 "#") ++ " " ++ paper.write .cyan (column 8 "Action") ++
       " " ++ paper.write .cyan (column 40 "File") ++ " " ++ paper.write .cyan "Rule",
     "  " ++ paper.write .dim (rule 70)] ++
    (patterns.zipIdx 1).map (fun (pattern, number) => patternRow paper number pattern) ++
    ["",
     paper.write .dim "The last pattern matching a finding decides whether it is kept."]

/-- Where the settings file is expected. -/
def settingsPathProse (paper : Paper) (path : String) (isThere : Bool) : String :=
  if isThere then path
  else path ++ " " ++ paper.write .dim "(not found, using defaults)"

/-- An answer in words. -/
def Answer.prose (paper : Paper) (verbose : Bool) : Answer → String
  | .filtered input output filter stats =>
      lines (filteredProse paper verbose input output filter stats)
  | .tallied tally report => lines (talliedProse paper tally report)
  | .compiled _ patterns => lines (patternsProse paper patterns)
  | .settingsPath path isThere => line (settingsPathProse paper path isThere)
  | .effective settings => settings.written

end Suppression.Console
