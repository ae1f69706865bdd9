import Suppression.Console.Markdown
import Suppression.Proofs.Sarif.Passes

/-!
# Statistics

What a pass counts is true of the report it was given and of the report it leaves. So the
differences that answers show are not cut off at zero, and every removed result has lost a
location of its own.
-/

namespace Suppression.Sarif

open Json (Value)

/-- The locations of a result that names its rule by a text. -/
def decidableLocations (result : Value) : List Value :=
  match result.get? "ruleId", result.get? "locations" with
  | some (.string _), some (.array locations) => locations
  | _, _ => []

/-- How many locations of a report can be decided about. -/
def decidableCount (report : Value) : Nat :=
  ((allResults report).map fun result => (decidableLocations result).length).sum

/-- The statistics say what the reports before and after a pass hold. -/
structure Truthful (stats : Stats) (before after : Value) : Prop where
  resultsBefore : stats.resultsBefore = (allResults before).length
  resultsAfter : stats.resultsAfter = (allResults after).length
  locationsBefore : stats.locationsBefore = decidableCount before
  locationsAfter : stats.locationsBefore - stats.locationsRemoved = decidableCount after
  results_le : stats.resultsAfter ≤ stats.resultsBefore
  locations_le : stats.locationsRemoved ≤ stats.locationsBefore
  removed_le : stats.resultsBefore - stats.resultsAfter ≤ stats.locationsRemoved

theorem decidedLocations_eq (result : Value) :
    decidedLocations result = decidableLocations result := by
  rcases decided_or_not result with ⟨rule, locations, hdecided⟩ | hnone
  · rw [decidedLocations_of_decided hdecided, decidableLocations, hdecided.1, hdecided.2.1]
  · rw [decidedLocations_of_not_decided hnone, decidableLocations]
    split
    next rule locations hrule hlocations =>
      -- Without a decision about them there are no locations in the array.
      by_contra hne
      exact hnone rule locations ⟨hrule, hlocations, Ne.symm hne⟩
    next => rfl

theorem locationCount_allResults (report : Value) :
    locationCount (allResults report) = decidableCount report := by
  rw [locationCount, decidableCount, funext decidedLocations_eq]

/-- A result that sifting takes away had a location, and one that it leaves gains none. -/
theorem length_add_locationCount_siftResult (judge : Judge) (result : Value) :
    1 + locationCount (siftResult judge result).toList ≤
      (siftResult judge result).toList.length + (decidedLocations result).length := by
  rcases decided_or_not result with ⟨rule, locations, hdecided⟩ | hnone
  · rw [siftResult_of_decided hdecided, decidedLocations_of_decided hdecided]
    split
    next => simpa [Nat.one_le_iff_ne_zero] using hdecided.2.2
    next hleft =>
      have htrimmed := hdecided.withField (mt List.isEmpty_iff.mpr hleft)
      have hle := List.length_filter_le (judge rule) locations
      simpa [decidedLocations_of_decided htrimmed] using hle
  · rw [siftResult_of_not_decided hnone]
    simp

theorem length_add_locationCount_filterMap (judge : Judge) (results : List Value) :
    results.length + locationCount (results.filterMap (siftResult judge)) ≤
      (results.filterMap (siftResult judge)).length + locationCount results := by
  induction results with
  | nil => exact Nat.le_refl _
  | cons result results ih =>
      have hresult := length_add_locationCount_siftResult judge result
      rw [filterMap_siftResult_cons, locationCount_append, List.length_append, List.length_cons,
        locationCount_cons]
      omega

/-- Every removed result has lost a location at least. -/
theorem resultsRemoved_le (patterns : List Pattern) (report : Value) :
    (pass patterns report).2.stats.resultsRemoved ≤
      (pass patterns report).2.stats.locationsRemoved := by
  have hresults := resultsRemoved_add patterns report
  have hlocations := locationsRemoved_add patterns report
  have hbound := length_add_locationCount_filterMap (judge patterns) (allResults report)
  rw [← allResults_sift, ← pass_fst] at hbound
  omega

theorem pass_truthful (patterns : List Pattern) (report : Value) :
    Truthful (pass patterns report).2.stats report (pass patterns report).1 := by
  have hbalance := pass_balanced patterns report
  have hlocations := locationsRemoved_add patterns report
  have hbefore := hbalance.locationsBefore
  rw [locationCount_allResults] at hbefore
  rw [locationCount_allResults, locationCount_allResults] at hlocations
  constructor
  · exact hbalance.resultsBefore
  · exact hbalance.resultsAfter
  · exact hbefore
  · omega
  · rw [hbalance.resultsBefore, hbalance.resultsAfter]
    exact length_allResults_pass_le patterns report
  · omega
  · exact resultsRemoved_le patterns report

/-- The statistics of a pass are true, and so is the table that shows them: what it gives as
removed is exactly what is missing from the report that is left. -/
theorem pass_statistics (patterns : List Pattern) (report : Value) :
    Truthful (pass patterns report).2.stats report (pass patterns report).1 ∧
      ∃ results locations,
        (allResults (pass patterns report).1).length + results = (allResults report).length ∧
        decidableCount (pass patterns report).1 + locations = decidableCount report ∧
        (pass patterns report).2.stats.resultsRemoved = results ∧
        Console.filteredRows (pass patterns report).2.stats = [
          "| | Before | After | Removed |",
          "|---|---:|---:|---:|",
          "| Results | " ++ toString (allResults report).length ++ " | " ++
            toString (allResults (pass patterns report).1).length ++ " | " ++
            toString results ++ " |",
          "| Locations | " ++ toString (decidableCount report) ++ " | " ++
            toString (decidableCount (pass patterns report).1) ++ " | " ++
            toString locations ++ " |"] := by
  have htrue := pass_truthful patterns report
  refine ⟨htrue, (pass patterns report).2.stats.resultsRemoved,
    (pass patterns report).2.stats.locationsRemoved, ?_, ?_, rfl, ?_⟩
  · rw [Nat.add_comm]
    exact resultsRemoved_add patterns report
  · rw [← htrue.locationsAfter, ← htrue.locationsBefore]
    exact Nat.sub_add_cancel htrue.locations_le
  · rw [Console.filteredRows, htrue.locationsAfter, htrue.locationsBefore, htrue.resultsBefore,
      htrue.resultsAfter]

end Suppression.Sarif
