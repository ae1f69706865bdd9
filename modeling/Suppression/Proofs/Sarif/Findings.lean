import Suppression.Proofs.Sarif.Counting
import Suppression.Proofs.Sarif.Passes

/-!
# Findings of a filtered report

A tally of the report that a pass leaves against a tally of the report before. Of all
results only those with a rule can be removed, and a result that is left keeps its rule
and its level. So what a tally misses afterwards is what the pass has removed.
-/

namespace Suppression.Sarif

open Json (Value)

/-- The findings of all runs of a report. -/
def allFindings (report : Value) : List Value :=
  (runs report).flatMap findings

/-- The results that a pass takes away. -/
def removedResults (patterns : List Pattern) (report : Value) : List Value :=
  (allResults report).filter fun result => (passResult patterns result).1.isNone

/-- The findings that name no rule. -/
def unnamedFindings (report : Value) : List Value :=
  (allFindings report).filter fun finding => ((finding.get? "ruleId").bind Value.text?).isNone

theorem allFindings_eq_filter (report : Value) :
    allFindings report = (allResults report).filter Value.isObject := by
  rw [allResults, List.filter_flatMap]
  rfl

theorem isObject_of_decided {result : Value} {rule : String} {locations : List Value}
    (h : Decided result rule locations) : result.isObject = true := by
  obtain ⟨fields, rfl, -⟩ := exists_fields_of_get? h.1
  rfl

theorem isObject_withField (key : String) (new value : Value) :
    (withField key new value).isObject = value.isObject := by
  cases value <;> rfl

/-- A result that is removed could be decided about. -/
theorem exists_decided_of_siftResult_eq_none {judge : Judge} {result : Value}
    (h : siftResult judge result = none) : ∃ rule locations, Decided result rule locations := by
  by_contra hnone
  rw [siftResult_of_not_decided fun rule locations hdecided =>
    hnone ⟨rule, locations, hdecided⟩] at h
  cases h

/-- A result that is left has all its fields but its locations. -/
theorem exists_withField_of_siftResult_eq_some {judge : Judge} {result left : Value}
    (h : siftResult judge result = some left) :
    left = result ∨ ∃ locations, left = withField "locations" locations result := by
  rcases decided_or_not result with ⟨rule, locations, hdecided⟩ | hnone
  · rw [siftResult_of_decided hdecided] at h
    split at h
    next => cases h
    next =>
      cases h
      exact .inr ⟨_, rfl⟩
  · rw [siftResult_of_not_decided hnone] at h
    cases h
    exact .inl rfl

section Kept

variable {judge : Judge} {result left : Value}

theorem isObject_of_siftResult_eq_some (h : siftResult judge result = some left) :
    left.isObject = result.isObject := by
  rcases exists_withField_of_siftResult_eq_some h with rfl | ⟨locations, rfl⟩
  · rfl
  · exact isObject_withField ..

theorem get?_of_siftResult_eq_some (h : siftResult judge result = some left) {key : String}
    (hkey : key ≠ "locations") : left.get? key = result.get? key := by
  rcases exists_withField_of_siftResult_eq_some h with rfl | ⟨locations, rfl⟩
  · rfl
  · exact get?_withField_of_ne hkey ..

theorem ruleKey_of_siftResult_eq_some (h : siftResult judge result = some left) :
    ruleKey left = ruleKey result := by
  rw [ruleKey, get?_of_siftResult_eq_some h (by decide), ruleKey]

theorem levelKey_of_siftResult_eq_some (h : siftResult judge result = some left) :
    levelKey left = levelKey result := by
  rw [levelKey, get?_of_siftResult_eq_some h (by decide), levelKey]

end Kept

/-! ## Counting what is left -/

/-- A property that sifting keeps is lost with the results that are removed only. -/
theorem countP_filterMap_add {judge : Judge} {holds : Value → Bool}
    (h : ∀ result left, siftResult judge result = some left → holds left = holds result)
    (results : List Value) :
    (results.filterMap (siftResult judge)).countP holds +
        (results.filter fun result => (siftResult judge result).isNone).countP holds =
      results.countP holds := by
  induction results with
  | nil => rfl
  | cons result results ih =>
      rw [List.filterMap_cons, List.filter_cons, List.countP_cons, ← ih]
      cases hsift : siftResult judge result with
      | none =>
          simp only [Option.isNone_none, if_true, List.countP_cons]
          omega
      | some left =>
          simp only [Option.isNone_some, Bool.false_eq_true, if_false, List.countP_cons,
            h result left hsift]
          omega

theorem removedResults_eq (patterns : List Pattern) (report : Value) :
    removedResults patterns report =
      (allResults report).filter fun result =>
        (siftResult (judge patterns) result).isNone := by
  simp only [removedResults, passResult_fst]

theorem countP_allResults_pass (patterns : List Pattern) {holds : Value → Bool}
    (h : ∀ result left, siftResult (judge patterns) result = some left →
      holds left = holds result) (report : Value) :
    (allResults (pass patterns report).1).countP holds +
        (removedResults patterns report).countP holds =
      (allResults report).countP holds := by
  rw [pass_fst, allResults_sift, removedResults_eq]
  exact countP_filterMap_add h (allResults report)

theorem length_removedResults (patterns : List Pattern) (report : Value) :
    (removedResults patterns report).length =
      (pass patterns report).2.stats.resultsRemoved := by
  have hcount : (allResults (pass patterns report).1).countP (fun _ => true) +
      (removedResults patterns report).countP (fun _ => true) =
        (allResults report).countP (fun _ => true) :=
    countP_allResults_pass patterns (fun _ _ _ => rfl) report
  have hremoved := resultsRemoved_add patterns report
  simp only [List.countP_true] at hcount
  omega

theorem isObject_of_mem_removedResults {patterns : List Pattern} {report result : Value}
    (h : result ∈ removedResults patterns report) : result.isObject = true := by
  rw [removedResults_eq, List.mem_filter, Option.isNone_iff_eq_none] at h
  obtain ⟨rule, locations, hdecided⟩ := exists_decided_of_siftResult_eq_none h.2
  exact isObject_of_decided hdecided

theorem length_allFindings_pass (patterns : List Pattern) (report : Value) :
    (allFindings (pass patterns report).1).length +
        (pass patterns report).2.stats.resultsRemoved =
      (allFindings report).length := by
  have hobjects : (removedResults patterns report).countP Value.isObject =
      (removedResults patterns report).length :=
    List.countP_eq_length.mpr fun _ => isObject_of_mem_removedResults
  rw [← length_removedResults, ← hobjects, allFindings_eq_filter, allFindings_eq_filter,
    ← List.countP_eq_length_filter, ← List.countP_eq_length_filter]
  exact countP_allResults_pass patterns (fun _ _ => isObject_of_siftResult_eq_some) report

/-- A key that sifting keeps is missed by as many findings as were removed with it. -/
theorem count_map_allFindings_pass {key : Value → String} {patterns : List Pattern}
    (h : ∀ result left, siftResult (judge patterns) result = some left →
      key left = key result) (report : Value) (name : String) :
    ((allFindings (pass patterns report).1).map key).count name +
        ((removedResults patterns report).map key).count name =
      ((allFindings report).map key).count name := by
  have hkept : ∀ result left, siftResult (judge patterns) result = some left →
      (key left == name && left.isObject) = (key result == name && result.isObject) := by
    intro result left hsift
    rw [h result left hsift, isObject_of_siftResult_eq_some hsift]
  have hremoved : (removedResults patterns report).countP (fun result => key result == name) =
      (removedResults patterns report).countP
        fun result => key result == name && result.isObject := by
    apply List.countP_congr
    intro result hresult
    rw [isObject_of_mem_removedResults hresult, Bool.and_true]
  simp only [List.count, List.countP_map, allFindings_eq_filter, List.countP_filter]
  exact (congrArg _ hremoved).trans (countP_allResults_pass patterns hkept report)

/-- Results that sifting never touches are left as they are, and in their order. -/
theorem filter_filterMap_siftResult {judge : Judge} {holds : Value → Bool}
    (huntouched : ∀ result, holds result = true → siftResult judge result = some result)
    (h : ∀ result left, siftResult judge result = some left → holds left = holds result)
    (results : List Value) :
    (results.filterMap (siftResult judge)).filter holds = results.filter holds := by
  induction results with
  | nil => rfl
  | cons result results ih =>
      cases hholds : holds result with
      | true =>
          rw [List.filterMap_cons_some (huntouched result hholds), List.filter_cons_of_pos hholds,
            List.filter_cons_of_pos hholds, ih]
      | false =>
          rw [List.filter_cons_of_neg (by simp [hholds]), ← ih, List.filterMap_cons]
          cases hsift : siftResult judge result with
          | none => rfl
          | some left =>
              have hleft : holds left = false := (h result left hsift).trans hholds
              exact List.filter_cons_of_neg (by simp [hleft])

theorem unnamedFindings_pass (patterns : List Pattern) (report : Value) :
    unnamedFindings (pass patterns report).1 = unnamedFindings report := by
  simp only [unnamedFindings, allFindings_eq_filter, List.filter_filter, pass_fst,
    allResults_sift]
  apply filter_filterMap_siftResult
  · intro result hunnamed
    apply siftResult_of_not_decided
    intro rule locations hdecided
    rw [hdecided.1] at hunnamed
    cases hunnamed
  · intro result left hsift
    rw [get?_of_siftResult_eq_some hsift (by decide), isObject_of_siftResult_eq_some hsift]

/-! ## The name of the tool -/

theorem get?_mapItems_of_ne {key other : String} (h : other ≠ key)
    (rewrite : List Value → List Value) (value : Value) :
    (mapItems key rewrite value).get? other = value.get? other := by
  unfold mapItems
  split
  next => exact get?_withField_of_ne h ..
  next => rfl

theorem toolName?_pass (patterns : List Pattern) (report : Value) :
    toolName? (pass patterns report).1 = toolName? report := by
  have hrun (run : Value) : (siftRun (judge patterns) run).at? ["tool", "driver", "name"] =
      run.at? ["tool", "driver", "name"] := by
    rw [Value.at?, siftRun, get?_mapItems_of_ne (by decide), Value.at?]
  rw [toolName?, toolName?, pass_fst, runs_sift, List.head?_map]
  cases (runs report).head? with
  | none => rfl
  | some run =>
      rw [Option.map_some, Option.bind_some, Option.bind_some, hrun]

/-- A finding that names no rule is counted for the name that stands for none. -/
theorem length_unnamedFindings_le (fallback : String) (report : Value) :
    (unnamedFindings report).length ≤ (tally fallback report).byRule.count noRule := by
  rw [count_byRule, unnamedFindings, ← List.countP_eq_length_filter, List.count, List.countP_map]
  apply List.countP_mono_left
  intro finding _ hunnamed
  rw [Function.comp_apply, ruleKey, Option.isNone_iff_eq_none.mp hunnamed]
  rfl

/-- What a pass removes is what a tally of the report misses afterwards: in all, by rule and
by level. The tool keeps its name. Findings that name no rule are all left, and counted. -/
theorem tally_pass (patterns : List Pattern) (report : Value) (fallback : String) :
    (tally fallback (pass patterns report).1).total +
        (pass patterns report).2.stats.resultsRemoved =
      (tally fallback report).total ∧
    (tally fallback (pass patterns report).1).toolName = (tally fallback report).toolName ∧
    (removedResults patterns report).length = (pass patterns report).2.stats.resultsRemoved ∧
    (∀ rule, (tally fallback (pass patterns report).1).byRule.count rule +
        ((removedResults patterns report).map ruleKey).count rule =
      (tally fallback report).byRule.count rule) ∧
    (∀ level, (tally fallback (pass patterns report).1).byLevel.count level +
        ((removedResults patterns report).map levelKey).count level =
      (tally fallback report).byLevel.count level) ∧
    unnamedFindings (pass patterns report).1 = unnamedFindings report ∧
    (unnamedFindings report).length ≤
      (tally fallback (pass patterns report).1).byRule.count noRule := by
  have hunnamed := unnamedFindings_pass patterns report
  refine ⟨length_allFindings_pass patterns report, ?_, length_removedResults patterns report,
    ?_, ?_, hunnamed, ?_⟩
  · exact congrArg (Option.getD · fallback) (toolName?_pass patterns report)
  · intro rule
    rw [count_byRule, count_byRule]
    exact count_map_allFindings_pass (fun _ _ => ruleKey_of_siftResult_eq_some) report rule
  · intro level
    rw [count_byLevel, count_byLevel]
    exact count_map_allFindings_pass (fun _ _ => levelKey_of_siftResult_eq_some) report level
  · rw [← hunnamed]
    exact length_unnamedFindings_le fallback (pass patterns report).1

end Suppression.Sarif
