import Suppression.Log

/-!
# Accounts

While a filter is applied to a report, every decision is counted and logged. An account
holds the counts and the log of some part of a report; accounts of neighbouring parts
are joined.
-/

namespace Suppression.Sarif

/-- What applying a filter has counted. -/
@[ext] structure Stats where
  /-- Runs of the report. -/
  runs : Nat := 0
  /-- Results before. -/
  resultsBefore : Nat := 0
  /-- Results left over. -/
  resultsAfter : Nat := 0
  /-- Locations that a decision was made about. -/
  locationsBefore : Nat := 0
  /-- Locations taken away. -/
  locationsRemoved : Nat := 0
  /-- Runs, results and locations left as they are because of their shape. -/
  malformed : Nat := 0
  deriving DecidableEq, Repr

namespace Stats

/-- The counts of two parts together. -/
def add (left right : Stats) : Stats where
  runs := left.runs + right.runs
  resultsBefore := left.resultsBefore + right.resultsBefore
  resultsAfter := left.resultsAfter + right.resultsAfter
  locationsBefore := left.locationsBefore + right.locationsBefore
  locationsRemoved := left.locationsRemoved + right.locationsRemoved
  malformed := left.malformed + right.malformed

instance : Add Stats := ⟨add⟩

/-- Results taken away because none of their locations was left. -/
def resultsRemoved (stats : Stats) : Nat := stats.resultsBefore - stats.resultsAfter

theorem add_assoc (first second third : Stats) :
    first + second + third = first + (second + third) := by
  ext <;> exact Nat.add_assoc ..

theorem add_comm (left right : Stats) : left + right = right + left := by
  ext <;> exact Nat.add_comm ..

@[simp] theorem add_zero (stats : Stats) : stats + {} = stats := by
  ext <;> exact Nat.add_zero _

@[simp] theorem zero_add (stats : Stats) : {} + stats = stats := by
  rw [add_comm, add_zero]

end Stats

/-- Something that applying a filter reports. -/
inductive Event where
  /-- The report has no runs. -/
  | noRuns
  /-- The runs of the report are no array. -/
  | runsNotArray
  /-- A run is no object. -/
  | runNotObject (run : Nat)
  /-- The results of a run are no array. -/
  | resultsNotArray (run : Nat)
  /-- A result is no object. -/
  | resultNotObject
  /-- The locations of a result are no array. -/
  | locationsNotArray
  /-- A result does not say which rule reported it. -/
  | ruleNotText
  /-- A location does not say which file it is in. -/
  | uriNotText (rule : String)
  | locationKept (uri : String)
  | locationRemoved (uri : String)
  | resultKept (index : Nat)
  | resultRemoved (index : Nat)
  /-- All results of a run have been looked at. -/
  | runDone (run kept : Nat)
  deriving DecidableEq, Repr

/-- The log entry for an event. -/
def Event.entry : Event → Log.Entry
  | .noRuns => Log.debug .reports "Sarif document has no runs"
  | .runsNotArray => Log.warn .reports "Skipping sarif document: `runs` is not an array"
  | .runNotObject run => Log.warn .reports ("Skipping run " ++ toString run ++ ": not an object")
  | .resultsNotArray run =>
      Log.warn .reports ("Skipping run " ++ toString run ++ ": `results` is not an array")
  | .resultNotObject => Log.warn .reports "Keeping result that is not an object"
  | .locationsNotArray => Log.warn .reports "Keeping result with malformed `locations`"
  | .ruleNotText => Log.warn .reports "Keeping result without a string `ruleId`"
  | .uriNotText rule =>
      Log.warn .reports ("Keeping location without a string uri (rule " ++ rule ++ ")")
  | .locationKept uri => Log.debug .reports ("Added location to results: " ++ uri)
  | .locationRemoved uri => Log.debug .reports ("Removed " ++ uri ++ " from results")
  | .resultKept index => Log.debug .reports ("Kept result " ++ toString index)
  | .resultRemoved index =>
      Log.info .reports ("Empty locations, removed result " ++ toString index)
  | .runDone run kept =>
      Log.debug .reports ("Run " ++ toString run ++ " keeps " ++ toString kept ++ " results")

/-- The counts and events of a part of a report. -/
structure Account where
  /-- The counts. -/
  stats : Stats := {}
  /-- The events, in their order. -/
  events : List Event := []
  deriving DecidableEq, Repr

/-- The account of two neighbouring parts. -/
def Account.append (left right : Account) : Account :=
  ⟨left.stats + right.stats, left.events ++ right.events⟩

instance : Append Account := ⟨Account.append⟩

@[simp] theorem Account.stats_append (left right : Account) :
    (left ++ right).stats = left.stats + right.stats := rfl

/-- The account of a part that was left as it is because of its shape. -/
def Account.ofMalformed (event : Event) : Account :=
  ⟨{ malformed := 1 }, [event]⟩

end Suppression.Sarif
