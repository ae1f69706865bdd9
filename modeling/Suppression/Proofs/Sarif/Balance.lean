import Mathlib.Algebra.GroupWithZero.Nat
import Suppression.Proofs.Sarif.Sifting
import Suppression.Sarif.Tally

/-!
# The balance of a pass

The counts of a pass against the reports before and after it: how many results the runs
hold, and how many locations the results hold that can be decided about. Counts of
neighbouring parts add up, so the balance of a report comes from those of its results.
-/

namespace Suppression.Sarif

open Json (Value)

/-- The items of the array that a field holds, if it holds one. -/
def itemsAt (key : String) (value : Value) : List Value :=
  ((value.get? key).bind Value.items?).getD []

/-- The results of a run. -/
def results (run : Value) : List Value := itemsAt "results" run

/-- The results of all runs of a report. -/
def allResults (report : Value) : List Value :=
  (runs report).flatMap results

/-- The locations that a decision is made about. -/
def decidedLocations (result : Value) : List Value :=
  match Shape.of result with
  | .decidable _ locations => locations
  | _ => []

def locationCount (results : List Value) : Nat :=
  (results.map fun result => (decidedLocations result).length).sum

/-- The counts say how many results and decided locations there were before, and what is
left of them after. -/
structure Balanced (stats : Stats) (before after : List Value) : Prop where
  resultsBefore : stats.resultsBefore = before.length
  resultsAfter : stats.resultsAfter = after.length
  locationsBefore : stats.locationsBefore = locationCount before
  locationsAfter : stats.locationsRemoved + locationCount after = locationCount before

theorem itemsAt_of_get? {key : String} {value : Value} {items : List Value}
    (h : value.get? key = some (.array items)) : itemsAt key value = items := by
  simp [itemsAt, h, Value.items?]

theorem itemsAt_of_not_array {key : String} {value : Value}
    (h : ∀ items, value.get? key ≠ some (.array items)) : itemsAt key value = [] := by
  unfold itemsAt
  cases hget : value.get? key with
  | none => rfl
  | some found =>
      cases found with
      | array items => exact absurd hget (h items)
      | _ => rfl

theorem itemsAt_mapItems {rewrite : List Value → List Value} (hnil : rewrite [] = [])
    (key : String) (value : Value) :
    itemsAt key (mapItems key rewrite value) = rewrite (itemsAt key value) := by
  rcases array_or_not key value with ⟨items, hget⟩ | hnone
  · rw [mapItems_of_get? hget, itemsAt_of_get? hget]
    exact itemsAt_of_get? (get?_withField_self _ hget)
  · rw [mapItems_of_not_array hnone, itemsAt_of_not_array hnone, hnil]

theorem results_siftRun (judge : Judge) (run : Value) :
    results (siftRun judge run) = (results run).filterMap (siftResult judge) :=
  itemsAt_mapItems rfl "results" run

theorem runs_sift (judge : Judge) (report : Value) :
    runs (sift judge report) = (runs report).map (siftRun judge) :=
  itemsAt_mapItems rfl "runs" report

/-- Of all results of a report, sifting leaves what it leaves of each. -/
theorem allResults_sift (judge : Judge) (report : Value) :
    allResults (sift judge report) = (allResults report).filterMap (siftResult judge) := by
  simp only [allResults, runs_sift, List.flatMap_map, results_siftRun, List.filterMap_flatMap]

theorem decidedLocations_of_decided {result : Value} {rule : String} {locations : List Value}
    (h : Decided result rule locations) : decidedLocations result = locations := by
  rw [decidedLocations, shape_eq_decidable_iff.mpr h]

theorem decidedLocations_of_not_decided {result : Value}
    (h : ∀ rule locations, ¬ Decided result rule locations) : decidedLocations result = [] := by
  unfold decidedLocations
  split
  next rule locations hshape => exact absurd (shape_eq_decidable_iff.mp hshape) (h rule locations)
  next => rfl

@[simp] theorem locationCount_nil : locationCount [] = 0 := rfl

@[simp] theorem locationCount_cons (result : Value) (results : List Value) :
    locationCount (result :: results) =
      (decidedLocations result).length + locationCount results := by
  simp [locationCount]

@[simp] theorem locationCount_append (first second : List Value) :
    locationCount (first ++ second) = locationCount first + locationCount second := by
  simp [locationCount]

namespace Balanced

theorem zero {stats : Stats} (hresults : stats.resultsBefore = 0 ∧ stats.resultsAfter = 0)
    (hlocations : stats.locationsBefore = 0 ∧ stats.locationsRemoved = 0) :
    Balanced stats [] [] :=
  ⟨hresults.1, hresults.2, hlocations.1, hlocations.2⟩

theorem add {left right : Stats} {before after beforeRight afterRight : List Value}
    (hleft : Balanced left before after) (hright : Balanced right beforeRight afterRight) :
    Balanced (left + right) (before ++ beforeRight) (after ++ afterRight) where
  resultsBefore := by
    change left.resultsBefore + right.resultsBefore = _
    rw [hleft.resultsBefore, hright.resultsBefore, List.length_append]
  resultsAfter := by
    change left.resultsAfter + right.resultsAfter = _
    rw [hleft.resultsAfter, hright.resultsAfter, List.length_append]
  locationsBefore := by
    change left.locationsBefore + right.locationsBefore = _
    rw [hleft.locationsBefore, hright.locationsBefore, locationCount_append]
  locationsAfter := by
    change left.locationsRemoved + right.locationsRemoved + _ = _
    rw [locationCount_append, locationCount_append, ← hleft.locationsAfter,
      ← hright.locationsAfter]
    omega

end Balanced

/-! ## Results -/

theorem stats_account (patterns : List Pattern) (rule : String) (location : Value) :
    ((Verdict.of patterns rule location).account rule).stats =
      { locationsBefore := 1
        locationsRemoved := if !judge patterns rule location then 1 else 0
        malformed := if (uri? location).isNone then 1 else 0 } := by
  unfold judge Verdict.of
  cases uri? location with
  | none => rfl
  | some uri => cases hkeeps : Filter.keeps patterns uri rule <;> simp [hkeeps] <;> rfl

theorem stats_foldr_account (patterns : List Pattern) (rule : String) (locations : List Value) :
    (locations.foldr
        (fun location account => (Verdict.of patterns rule location).account rule ++ account)
        {}).stats =
      { locationsBefore := locations.length
        locationsRemoved := locations.countP fun location => !judge patterns rule location
        malformed := locations.countP fun location => (uri? location).isNone } := by
  induction locations with
  | nil => rfl
  | cons location locations ih =>
      rw [List.foldr_cons, Account.stats_append, ih, stats_account]
      change Stats.add _ _ = _
      simp [Stats.add, List.countP_cons, Nat.add_comm]

/-- What a pass counts about a result and its outcome. -/
def resultStats (patterns : List Pattern) (result : Value) : Stats :=
  (passResult patterns result).2.stats +
    match (passResult patterns result).1 with
    | some _ => { resultsBefore := 1, resultsAfter := 1 }
    | none => { resultsBefore := 1 }

theorem stats_passResults_cons (patterns : List Pattern) (index : Nat) (result : Value)
    (results : List Value) :
    (passResults patterns index (result :: results)).2.stats =
      resultStats patterns result + (passResults patterns (index + 1) results).2.stats := by
  unfold resultStats
  rw [passResults]
  cases hpass : passResult patterns result with
  | mk left account => cases left <;> rfl

/-- A result about which nothing is decided counts no location. -/
theorem stats_passResult_of_not_decided (patterns : List Pattern) {result : Value}
    (h : ∀ rule locations, ¬ Decided result rule locations) :
    ∃ malformed, (passResult patterns result).2.stats = { malformed := malformed } := by
  unfold passResult
  cases hshape : Shape.of result with
  | decidable rule locations => exact absurd (shape_eq_decidable_iff.mp hshape) (h rule locations)
  | noLocations => exact ⟨0, rfl⟩
  | _ => exact ⟨1, rfl⟩

theorem stats_passResult_of_decided {patterns : List Pattern} {result : Value} {rule : String}
    {locations : List Value} (h : Decided result rule locations) :
    (passResult patterns result).2.stats =
      { locationsBefore := locations.length
        locationsRemoved := locations.countP fun location => !judge patterns rule location
        malformed := locations.countP fun location => (uri? location).isNone } := by
  rw [← stats_foldr_account, passResult, shape_eq_decidable_iff.mpr h]

theorem resultStats_balanced (patterns : List Pattern) (result : Value) :
    Balanced (resultStats patterns result) [result]
      (siftResult (judge patterns) result).toList := by
  unfold resultStats
  rw [passResult_fst]
  rcases decided_or_not result with ⟨rule, locations, hdecided⟩ | hnone
  · have hbefore : locationCount [result] = locations.length := by
      simp [decidedLocations_of_decided hdecided]
    -- The locations that are removed and those that stay are all there are.
    have hcount : locations.countP (fun location => !judge patterns rule location) +
        (locations.filter (judge patterns rule)).length = locations.length := by
      have hsplit := List.length_eq_countP_add_countP (judge patterns rule) (l := locations)
      simp only [Bool.not_eq_true, Bool.decide_eq_false] at hsplit
      rw [hsplit, ← List.countP_eq_length_filter, Nat.add_comm]
    rw [stats_passResult_of_decided hdecided, siftResult_of_decided hdecided]
    by_cases hnil : locations.filter (judge patterns rule) = []
    · rw [hnil, List.length_nil] at hcount
      rw [hnil]
      refine ⟨rfl, rfl, hbefore.symm, ?_⟩
      rw [hbefore, ← hcount]
      rfl
    · rw [if_neg (by simpa using hnil)]
      have hafter := decidedLocations_of_decided (hdecided.withField hnil)
      refine ⟨rfl, rfl, hbefore.symm, ?_⟩
      rw [hbefore, Option.toList_some, locationCount_cons, hafter, ← hcount]
      rfl
  · have hcount : locationCount [result] = 0 := by
      simp [decidedLocations_of_not_decided hnone]
    obtain ⟨malformed, hstats⟩ := stats_passResult_of_not_decided patterns hnone
    rw [hstats, siftResult_of_not_decided hnone]
    refine ⟨rfl, rfl, hcount.symm, ?_⟩
    change 0 + 0 + locationCount [result] = locationCount [result]
    omega

theorem passResults_balanced (patterns : List Pattern) (index : Nat) (results : List Value) :
    Balanced (passResults patterns index results).2.stats results
      (results.filterMap (siftResult (judge patterns))) := by
  induction results generalizing index with
  | nil => exact .zero ⟨rfl, rfl⟩ ⟨rfl, rfl⟩
  | cons result results ih =>
      rw [stats_passResults_cons, filterMap_siftResult_cons]
      exact (resultStats_balanced patterns result).add (ih (index + 1))

/-! ## Runs and reports -/

theorem passRun_balanced (patterns : List Pattern) (index : Nat) (run : Value) :
    Balanced (passRun patterns index run).2.stats (results run)
      ((results run).filterMap (siftResult (judge patterns))) := by
  -- A run counts itself before it counts its results, which moves no balance.
  have hvisited : Balanced { runs := 1 } [] [] := .zero ⟨rfl, rfl⟩ ⟨rfl, rfl⟩
  rcases array_or_not "results" run with ⟨items, hget⟩ | hnone
  · obtain ⟨fields, rfl, -⟩ := exists_fields_of_get? hget
    have hstats : (passRun patterns index (.object fields)).2.stats =
        { runs := 1 } + (passResults patterns 0 items).2.stats + {} := by
      simp only [passRun, hget, Value.isObject, Bool.not_true, Bool.false_eq_true, if_false]
      rfl
    rw [hstats, Stats.add_zero, results, itemsAt_of_get? hget]
    exact hvisited.add (passResults_balanced patterns 0 items)
  · rw [results, itemsAt_of_not_array hnone]
    unfold passRun
    split
    next => exact .zero ⟨rfl, rfl⟩ ⟨rfl, rfl⟩
    next =>
      split
      next => exact hvisited
      next items hget => exact absurd hget (hnone items)
      next => exact .zero ⟨rfl, rfl⟩ ⟨rfl, rfl⟩

theorem passRuns_balanced (patterns : List Pattern) (index : Nat) (runs : List Value) :
    Balanced (passRuns patterns index runs).2.stats (runs.flatMap results)
      ((runs.flatMap results).filterMap (siftResult (judge patterns))) := by
  induction runs generalizing index with
  | nil => exact .zero ⟨rfl, rfl⟩ ⟨rfl, rfl⟩
  | cons run runs ih =>
      have hstats : (passRuns patterns index (run :: runs)).2.stats =
          (passRun patterns index run).2.stats + (passRuns patterns (index + 1) runs).2.stats :=
        rfl
      rw [hstats, List.flatMap_cons, List.filterMap_append]
      exact (passRun_balanced patterns index run).add (ih (index + 1))

/-- A pass counts the results and decided locations of the reports before and after it. -/
theorem pass_balanced (patterns : List Pattern) (report : Value) :
    Balanced (pass patterns report).2.stats (allResults report)
      (allResults (pass patterns report).1) := by
  rw [pass_fst, allResults_sift, allResults]
  rcases array_or_not "runs" report with ⟨items, hget⟩ | hnone
  · have hruns : runs report = items := itemsAt_of_get? hget
    have hstats : (pass patterns report).2.stats = (passRuns patterns 0 items).2.stats := by
      simp only [pass, hget]
    rw [hruns, hstats]
    exact passRuns_balanced patterns 0 items
  · have hruns : runs report = [] := itemsAt_of_not_array hnone
    rw [hruns]
    unfold pass
    split
    next => exact .zero ⟨rfl, rfl⟩ ⟨rfl, rfl⟩
    next items hget => exact absurd hget (hnone items)
    next => exact .zero ⟨rfl, rfl⟩ ⟨rfl, rfl⟩

end Suppression.Sarif
