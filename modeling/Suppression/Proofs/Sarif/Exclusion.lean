import Suppression.Proofs.Filter.Joining
import Suppression.Proofs.Sarif.Passes

/-!
# Exclusions

An exclusion brings nothing back, so exclusions behind a filter take away what the filter
would have left without them. They can as well be applied in a pass of their own, or in a
pass for each of them.
-/

namespace Suppression

namespace Filter

theorem mem_of_deciding_eq_some {patterns : List Pattern} {uri rule : String} {pattern : Pattern}
    (h : deciding patterns uri rule = some pattern) : pattern ∈ patterns :=
  List.mem_of_mem_filter (List.mem_of_getLast? h)

theorem keeps_append_of_excludes {excludes : List Pattern}
    (h : ∀ pattern ∈ excludes, pattern.keeps = false) (patterns : List Pattern)
    (uri rule : String) :
    keeps (patterns ++ excludes) uri rule =
      (keeps excludes uri rule && keeps patterns uri rule) := by
  rw [keeps_append, keeps_eq_deciding excludes]
  cases hdeciding : deciding excludes uri rule with
  | none => rfl
  | some pattern =>
      have hdrops := h pattern (mem_of_deciding_eq_some hdeciding)
      simp [hdrops]

end Filter

namespace Sarif

open Json (Value)

section Excludes

variable {excludes : List Pattern} (h : ∀ pattern ∈ excludes, pattern.keeps = false)
include h

theorem judge_append_of_excludes (patterns : List Pattern) :
    judge (patterns ++ excludes) =
      fun rule location => judge excludes rule location && judge patterns rule location := by
  funext rule location
  simp only [judge_apply]
  cases uri? location with
  | none => rfl
  | some uri => exact Filter.keeps_append_of_excludes h patterns uri rule

theorem pass_append_of_excludes_fst (patterns : List Pattern) (report : Value) :
    (pass (patterns ++ excludes) report).1 = (pass excludes (pass patterns report).1).1 := by
  simp only [pass_fst, sift_sift, judge_append_of_excludes h]

/-- Exclusions leave together what they leave one by one. -/
theorem judgeAll_map_singleton :
    judgeAll (excludes.map fun pattern => [pattern]) = judge excludes := by
  induction excludes with
  | nil =>
      funext rule location
      rw [judge_apply]
      cases uri? location <;> rfl
  | cons pattern excludes ih =>
      have hrest : ∀ other ∈ excludes, other.keeps = false :=
        fun other hother => h other (List.mem_cons_of_mem _ hother)
      rw [← List.singleton_append, judge_append_of_excludes hrest, ← ih hrest]
      funext rule location
      exact Bool.and_comm _ _

end Excludes

/-- Exclusions behind a filter can be applied in a pass behind it: the same report is left, and
the two passes remove as much together. Among themselves exclusions can be put into any order,
and each of them can have a pass of its own. -/
theorem pass_append_excludes {excludes : List Pattern}
    (h : ∀ pattern ∈ excludes, pattern.keeps = false) (patterns : List Pattern)
    (report : Value) :
    (pass (patterns ++ excludes) report).1 = (pass excludes (pass patterns report).1).1 ∧
      (pass (patterns ++ excludes) report).2.stats.locationsRemoved =
        (pass patterns report).2.stats.locationsRemoved +
          (pass excludes (pass patterns report).1).2.stats.locationsRemoved ∧
      (pass (patterns ++ excludes) report).2.stats.resultsRemoved =
        (pass patterns report).2.stats.resultsRemoved +
          (pass excludes (pass patterns report).1).2.stats.resultsRemoved ∧
      ∀ permuted, excludes.Perm permuted →
        (pass permuted report).1 = (pass excludes report).1 ∧
          (passes (permuted.map fun pattern => [pattern]) report).1 =
            (pass excludes report).1 := by
  -- One pass or two: what is removed depends on what is left in the end only.
  have hlast : (passes [patterns ++ excludes] report).1 =
      (passes [patterns, excludes] report).1 := pass_append_of_excludes_fst h patterns report
  refine ⟨hlast, ?_, ?_, ?_⟩
  · have hsum := sum_eq_of_fst_eq (fun left => locationCount (allResults left))
      locationsRemoved_add hlast
    simpa [passes] using hsum
  · have hsum := sum_eq_of_fst_eq (fun left => (allResults left).length) resultsRemoved_add hlast
    simpa [passes] using hsum
  · intro permuted hperm
    have hpermuted : ∀ pattern ∈ permuted, pattern.keeps = false :=
      fun pattern hpattern => h pattern (hperm.mem_iff.mpr hpattern)
    have hjudge : judgeAll (permuted.map fun pattern => [pattern]) = judge excludes := by
      rw [← judgeAll_perm (hperm.map _), judgeAll_map_singleton h]
    constructor
    · rw [pass_fst, pass_fst, ← hjudge, judgeAll_map_singleton hpermuted]
    · rw [passes_fst, pass_fst, hjudge]

/-- An exclusion of everything behind an inclusion of everything. It removes one finding. -/
theorem pass_append_excludes_everything :
    (∀ pattern ∈ [everything false], pattern.keeps = false) ∧
      (pass [everything true, everything false] oneFinding).1 =
        (pass [everything false] (pass [everything true] oneFinding).1).1 ∧
      (pass [everything true, everything false] oneFinding).2.stats.resultsRemoved = 1 := by
  have hexcludes : ∀ pattern ∈ [everything false], pattern.keeps = false := by simp [everything]
  obtain ⟨hlast, -, hresults, -⟩ :=
    pass_append_excludes hexcludes [everything true] oneFinding
  exact ⟨hexcludes, hlast, hresults.trans (by decide)⟩

end Sarif

end Suppression
