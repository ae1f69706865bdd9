import Suppression.Proofs.Sarif.Balance

/-!
# Totals

The counts of a pass are totals over the results of a run and over the runs of a report.
Neither the position of a part nor the parts in front of it matter. So the runs that a
pass counts, and what it leaves as it is because of its shape, can be read off the report
alone, and they are the same in the report that a pass leaves.
-/

namespace Suppression.Sarif

open Json (Value)

namespace Stats

/-- The counts of all parts together. -/
def total (parts : List Stats) : Stats := parts.foldr (· + ·) {}

@[simp] theorem total_nil : total [] = {} := rfl

@[simp] theorem total_cons (part : Stats) (parts : List Stats) :
    total (part :: parts) = part + total parts := rfl

theorem total_append (front back : List Stats) :
    total (front ++ back) = total front + total back := by
  induction front with
  | nil => exact (zero_add _).symm
  | cons part front ih => rw [List.cons_append, total_cons, ih, total_cons, add_assoc]

@[simp] theorem runs_add (left right : Stats) : (left + right).runs = left.runs + right.runs := rfl

@[simp] theorem malformed_add (left right : Stats) :
    (left + right).malformed = left.malformed + right.malformed := rfl

/-- A field that adds up over two parts adds up over all of them. -/
theorem field_total {field : Stats → Nat} (hzero : field {} = 0)
    (hadd : ∀ left right, field (left + right) = field left + field right) (parts : List Stats) :
    field (total parts) = (parts.map field).sum := by
  induction parts with
  | nil => exact hzero
  | cons part parts ih => rw [total_cons, hadd, ih, List.map_cons, List.sum_cons]

theorem runs_total (parts : List Stats) : (total parts).runs = (parts.map runs).sum :=
  field_total rfl runs_add parts

theorem malformed_total (parts : List Stats) :
    (total parts).malformed = (parts.map malformed).sum :=
  field_total rfl malformed_add parts

end Stats

/-! ## Counts of the parts -/

theorem stats_passResults (patterns : List Pattern) (index : Nat) (results : List Value) :
    (passResults patterns index results).2.stats =
      Stats.total (results.map (resultStats patterns)) := by
  induction results generalizing index with
  | nil => rfl
  | cons result results ih => rw [stats_passResults_cons, ih, List.map_cons, Stats.total_cons]

/-- What a pass counts about a run, wherever it stands. -/
def runStats (patterns : List Pattern) (run : Value) : Stats :=
  (passRun patterns 0 run).2.stats

theorem stats_passRun (patterns : List Pattern) (index : Nat) (run : Value) :
    (passRun patterns index run).2.stats = runStats patterns run := by
  unfold runStats passRun
  split
  next => rfl
  next => split <;> rfl

theorem stats_passRuns (patterns : List Pattern) (index : Nat) (runs : List Value) :
    (passRuns patterns index runs).2.stats = Stats.total (runs.map (runStats patterns)) := by
  induction runs generalizing index with
  | nil => rfl
  | cons run runs ih =>
      have hcons : (passRuns patterns index (run :: runs)).2.stats =
          (passRun patterns index run).2.stats + (passRuns patterns (index + 1) runs).2.stats :=
        rfl
      rw [hcons, stats_passRun, ih, List.map_cons, Stats.total_cons]

/-! ## Runs -/

theorem runs_resultStats (patterns : List Pattern) (result : Value) :
    (resultStats patterns result).runs = 0 := by
  have hpass : (passResult patterns result).2.stats.runs = 0 := by
    unfold passResult
    cases Shape.of result with
    | decidable rule locations => exact congrArg Stats.runs (stats_foldr_account ..)
    | _ => rfl
  rw [resultStats, Stats.runs_add, hpass]
  split <;> rfl

theorem runs_runStats (patterns : List Pattern) (run : Value) :
    (runStats patterns run).runs = 1 := by
  unfold runStats passRun
  split
  next => rfl
  next =>
    split
    next => rfl
    next => simp [stats_passResults, Stats.runs_total, Function.comp_def, runs_resultStats]
    next => rfl

/-- A pass counts every run of the report. -/
theorem runs_pass (patterns : List Pattern) (report : Value) :
    (pass patterns report).2.stats.runs = (runs report).length := by
  unfold pass runs
  cases report.get? "runs" with
  | none => rfl
  | some found =>
      cases found with
      | array items =>
          simp [stats_passRuns, Stats.runs_total, Function.comp_def, runs_runStats, Value.items?]
      | _ => rfl

/-! ## Malformed entries -/

/-- A field may be missing. If it is there, it has to be an array, whose items are counted. -/
def malformedAt (key : String) (count : List Value → Nat) (value : Value) : Nat :=
  match value.get? key with
  | none => 0
  | some (.array items) => count items
  | some _ => 1

/-- The malformed entries of a result: the result itself, or locations that name no file. -/
def malformedInResult (result : Value) : Nat :=
  match Shape.of result with
  | .noLocations => 0
  | .decidable _ locations => locations.countP fun location => (uri? location).isNone
  | _ => 1

def malformedInRun (run : Value) : Nat :=
  if run.isObject then
    malformedAt "results" (fun results => (results.map malformedInResult).sum) run
  else 1

def malformedInReport (report : Value) : Nat :=
  malformedAt "runs" (fun runs => (runs.map malformedInRun).sum) report

theorem malformed_resultStats (patterns : List Pattern) (result : Value) :
    (resultStats patterns result).malformed = malformedInResult result := by
  have hpass : (passResult patterns result).2.stats.malformed = malformedInResult result := by
    unfold passResult malformedInResult
    cases Shape.of result with
    | decidable rule locations => exact congrArg Stats.malformed (stats_foldr_account ..)
    | _ => rfl
  rw [resultStats, Stats.malformed_add, hpass]
  split <;> rfl

theorem malformed_runStats (patterns : List Pattern) (run : Value) :
    (runStats patterns run).malformed = malformedInRun run := by
  unfold runStats passRun malformedInRun malformedAt
  cases hobject : run.isObject with
  | false => rfl
  | true =>
      simp only [Bool.not_true, Bool.false_eq_true, if_false, if_true]
      cases run.get? "results" with
      | none => rfl
      | some found =>
          cases found with
          | array items =>
              simp [stats_passResults, Stats.malformed_total, Function.comp_def,
                malformed_resultStats]
          | _ => rfl

/-- What a pass counts as malformed does not depend on its patterns. -/
theorem malformed_pass (patterns : List Pattern) (report : Value) :
    (pass patterns report).2.stats.malformed = malformedInReport report := by
  unfold pass malformedInReport malformedAt
  cases report.get? "runs" with
  | none => rfl
  | some found =>
      cases found with
      | array items =>
          simp [stats_passRuns, Stats.malformed_total, Function.comp_def, malformed_runStats]
      | _ => rfl

theorem malformedAt_mapItems {rewrite : List Value → List Value} {count : List Value → Nat}
    (h : ∀ items, count (rewrite items) = count items) (key : String) (value : Value) :
    malformedAt key count (mapItems key rewrite value) = malformedAt key count value := by
  rcases array_or_not key value with ⟨items, hget⟩ | hnone
  · rw [mapItems_of_get? hget, malformedAt, get?_withField_self _ hget, malformedAt, hget]
    exact h items
  · rw [mapItems_of_not_array hnone]

theorem malformedInResult_of_decided {result : Value} {rule : String} {locations : List Value}
    (h : Decided result rule locations) :
    malformedInResult result = locations.countP fun location => (uri? location).isNone := by
  rw [malformedInResult, shape_eq_decidable_iff.mpr h]

/-- Locations that name no file stay, so none of them is lost with a trimmed or removed result. -/
theorem malformedInResult_siftResult (patterns : List Pattern) (result : Value) :
    ((siftResult (judge patterns) result).toList.map malformedInResult).sum =
      malformedInResult result := by
  rcases decided_or_not result with ⟨rule, locations, hdecided⟩ | hnone
  · have hcount : (locations.filter (judge patterns rule)).countP
        (fun location => (uri? location).isNone) =
          locations.countP fun location => (uri? location).isNone := by
      rw [List.countP_filter]
      congr 1
      funext location
      cases huri : uri? location <;> simp [judge_apply, huri]
    rw [siftResult_of_decided hdecided, malformedInResult_of_decided hdecided, ← hcount]
    split
    next hnone =>
      rw [List.isEmpty_iff.mp hnone]
      rfl
    next hleft =>
      have htrimmed := hdecided.withField (mt List.isEmpty_iff.mpr hleft)
      simp [malformedInResult_of_decided htrimmed]
  · rw [siftResult_of_not_decided hnone]
    simp

theorem sum_malformedInResult_filterMap (patterns : List Pattern) (results : List Value) :
    ((results.filterMap (siftResult (judge patterns))).map malformedInResult).sum =
      (results.map malformedInResult).sum := by
  induction results with
  | nil => rfl
  | cons result results ih =>
      have hresult := malformedInResult_siftResult patterns result
      rw [List.filterMap_cons, List.map_cons, List.sum_cons, ← ih, ← hresult]
      cases siftResult (judge patterns) result <;> simp

theorem malformedInRun_siftRun (patterns : List Pattern) (run : Value) :
    malformedInRun (siftRun (judge patterns) run) = malformedInRun run := by
  unfold malformedInRun siftRun
  rw [isObject_mapItems, malformedAt_mapItems (sum_malformedInResult_filterMap patterns)]

/-- No malformed entry is lost or made by a pass. -/
theorem malformedInReport_pass (patterns : List Pattern) (report : Value) :
    malformedInReport (pass patterns report).1 = malformedInReport report := by
  rw [pass_fst, malformedInReport, sift]
  apply malformedAt_mapItems
  intro runs
  simp [Function.comp_def, malformedInRun_siftRun]

end Suppression.Sarif
