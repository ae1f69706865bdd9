import Suppression.Proofs.Sarif.Passes
import Suppression.Proofs.Sarif.Totals

/-!
# Passing again

What a pass has left, another pass with the same patterns leaves as it is. So a second
pass has nothing to count but what the first one left over.
-/

namespace Suppression.Sarif

open Json (Value)

theorem sift_self (judge : Judge) (report : Value) :
    sift judge (sift judge report) = sift judge report := by
  rw [sift_sift]
  congr 1
  funext rule location
  exact Bool.and_self _

theorem pass_pass_fst (patterns : List Pattern) (report : Value) :
    (pass patterns (pass patterns report).1).1 = (pass patterns report).1 := by
  simp only [pass_fst, sift_self]

theorem length_runs_pass (patterns : List Pattern) (report : Value) :
    (runs (pass patterns report).1).length = (runs report).length := by
  rw [pass_fst, runs_sift, List.length_map]

/-- A pass that changes nothing counts what the report holds, and nothing as removed. -/
theorem stats_of_pass_fst_eq {patterns : List Pattern} {report : Value}
    (h : (pass patterns report).1 = report) :
    (pass patterns report).2.stats =
      { runs := (runs report).length
        resultsBefore := (allResults report).length
        resultsAfter := (allResults report).length
        locationsBefore := locationCount (allResults report)
        locationsRemoved := 0
        malformed := malformedInReport report } := by
  have hbalance := pass_balanced patterns report
  have hremoved := locationsRemoved_add patterns report
  rw [h] at hbalance hremoved
  ext
  · exact runs_pass patterns report
  · exact hbalance.resultsBefore
  · exact hbalance.resultsAfter
  · exact hbalance.locationsBefore
  · exact Nat.right_eq_add.mp hremoved.symm
  · exact malformed_pass patterns report

/-- A second pass with the same patterns changes nothing and counts what the first one left
over. No pass loses or makes malformed entries, whatever its patterns are. -/
theorem pass_again (patterns : List Pattern) (report : Value) :
    (pass patterns (pass patterns report).1).1 = (pass patterns report).1 ∧
      (pass patterns (pass patterns report).1).2.stats =
        { runs := (pass patterns report).2.stats.runs
          resultsBefore := (pass patterns report).2.stats.resultsAfter
          resultsAfter := (pass patterns report).2.stats.resultsAfter
          locationsBefore := (pass patterns report).2.stats.locationsBefore -
            (pass patterns report).2.stats.locationsRemoved
          locationsRemoved := 0
          malformed := (pass patterns report).2.stats.malformed } ∧
      (pass patterns report).2.stats.locationsRemoved ≤
        (pass patterns report).2.stats.locationsBefore ∧
      ∀ others, (pass others (pass patterns report).1).2.stats.malformed =
        (pass patterns report).2.stats.malformed := by
  have hbalance := pass_balanced patterns report
  have hremoved := locationsRemoved_add patterns report
  have hmalformed : malformedInReport (pass patterns report).1 =
      (pass patterns report).2.stats.malformed := by
    rw [malformedInReport_pass, malformed_pass]
  refine ⟨pass_pass_fst patterns report, ?_, ?_, ?_⟩
  · rw [stats_of_pass_fst_eq (pass_pass_fst patterns report)]
    ext
    · change (runs (pass patterns report).1).length = _
      rw [length_runs_pass, runs_pass]
    · exact hbalance.resultsAfter.symm
    · exact hbalance.resultsAfter.symm
    · change locationCount (allResults (pass patterns report).1) = _ - _
      rw [hbalance.locationsBefore]
      omega
    · rfl
    · exact hmalformed
  · rw [hbalance.locationsBefore]
    omega
  · intro others
    rw [malformed_pass, hmalformed]

end Suppression.Sarif
