import Suppression.Json.Value
import Suppression.Sarif.Account
import Suppression.Sarif.Tally

/-!
# Counts as documents

What was counted in a report, as documents that other programs can read.
-/

namespace Suppression.Sarif

open Json (Value)

/-- The counts of a filter as fields of an object. -/
def Stats.document (stats : Stats) : Value := .object [
  ("runs", .ofNat stats.runs),
  ("results_before", .ofNat stats.resultsBefore),
  ("results_after", .ofNat stats.resultsAfter),
  ("locations_before", .ofNat stats.locationsBefore),
  ("locations_removed", .ofNat stats.locationsRemoved),
  ("malformed_entries", .ofNat stats.malformed)]

/-- The count of a rule as an object. -/
def ruleDocument (count : String × Nat) : Value :=
  .object [("rule_id", .string count.1), ("total", .ofNat count.2)]

/-- The fields of a tally. Rules are an array, because their order matters. -/
def Tally.fields (tally : Tally) : List (String × Value) := [
  ("tool_name", .string tally.toolName),
  ("total", .ofNat tally.total),
  ("by_rule", .array (tally.byRule.map ruleDocument)),
  ("by_level", .object (tally.byLevel.map fun (level, total) => (level, .ofNat total)))]

/-- A tally as an object. -/
def Tally.document (tally : Tally) : Value := .object tally.fields

end Suppression.Sarif
