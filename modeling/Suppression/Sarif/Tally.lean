import Suppression.Json.Value

/-!
# Tallies

A tally counts the findings of a report by rule and by level. Entries that are no
objects are no findings.
-/

namespace Suppression.Sarif

open Json (Value)

/-- Names with their counts. -/
abbrev Counts := List (String × Nat)

/-- Count a name once more. The names stay in ascending order. -/
def Counts.bump (name : String) : Counts → Counts
  | [] => [(name, 1)]
  | (other, count) :: counts =>
      if name = other then (other, count + 1) :: counts
      else if name < other then (name, 1) :: (other, count) :: counts
      else (other, count) :: Counts.bump name counts

/-- How often each name occurs. -/
def Counts.of (names : List String) : Counts :=
  names.foldl (fun counts name => counts.bump name) []

/-- The findings of a report, counted. -/
structure Tally where
  /-- The tool that made the report. -/
  toolName : String
  /-- All findings. -/
  total : Nat
  /-- Findings of each rule, the most frequent rule first. -/
  byRule : Counts
  /-- Findings of each level, by the name of the level. -/
  byLevel : Counts
  deriving DecidableEq, Repr

/-- Stands for the rule of a finding that names none. -/
def noRule : String := "<none>"

/-- The level of a finding that names none. -/
def defaultLevel : String := "warning"

/-- The runs of a report. -/
def runs (report : Value) : List Value :=
  ((report.get? "runs").bind Value.items?).getD []

/-- The findings of a run. -/
def findings (run : Value) : List Value :=
  (((run.get? "results").bind Value.items?).getD []).filter Value.isObject

/-- The rule that a finding is counted for. -/
def ruleKey (finding : Value) : String :=
  ((finding.get? "ruleId").bind Value.text?).getD noRule

/-- The level that a finding is counted for. -/
def levelKey (finding : Value) : String :=
  ((finding.get? "level").bind Value.text?).getD defaultLevel

/-- The tool named by the first run. -/
def toolName? (report : Value) : Option String :=
  ((runs report).head?.bind (Value.at? ["tool", "driver", "name"])).bind Value.text?

/-- The greater counts come first; equal ones keep their order. -/
def Counts.mostFrequentFirst (counts : Counts) : Counts :=
  counts.mergeSort fun left right => right.2 ≤ left.2

/-- Count the findings of a report. `fallback` names the tool if the report does not. -/
def tally (fallback : String) (report : Value) : Tally :=
  let found := (runs report).flatMap findings
  { toolName := (toolName? report).getD fallback
    total := found.length
    byRule := (Counts.of (found.map ruleKey)).mostFrequentFirst
    byLevel := Counts.of (found.map levelKey) }

end Suppression.Sarif
