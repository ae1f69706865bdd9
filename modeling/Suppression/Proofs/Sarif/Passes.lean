import Suppression.Proofs.Sarif.Balance

/-!
# Passes one after the other

Filters that are applied to a report in turn leave the locations that all of them keep.
So their order does not matter, for the report that is left and for what they remove
together. Within one filter the order of the patterns does matter.
-/

namespace Suppression.Sarif

open Json (Value)

/-- Apply filters to a report in turn, and keep the counts of every pass. -/
def passes : List (List Pattern) → Value → Value × List Stats
  | [], report => (report, [])
  | patterns :: filters, report =>
      let (left, account) := pass patterns report
      let (last, stats) := passes filters left
      (last, account.stats :: stats)

theorem passes_cons_fst (patterns : List Pattern) (filters : List (List Pattern))
    (report : Value) :
    (passes (patterns :: filters) report).1 = (passes filters (pass patterns report).1).1 :=
  rfl

theorem passes_cons_snd (patterns : List Pattern) (filters : List (List Pattern))
    (report : Value) :
    (passes (patterns :: filters) report).2 =
      (pass patterns report).2.stats :: (passes filters (pass patterns report).1).2 :=
  rfl

/-- A location is left if all filters keep it. -/
def judgeAll (filters : List (List Pattern)) : Judge := fun rule location =>
  filters.all fun patterns => judge patterns rule location

/-- What is left in the end is what the judges of all filters leave together. -/
theorem passes_fst (filters : List (List Pattern)) (report : Value) :
    (passes filters report).1 = sift (judgeAll filters) report := by
  induction filters generalizing report with
  | nil => exact (sift_true report).symm
  | cons patterns filters ih =>
      rw [passes_cons_fst, ih, pass_fst, sift_sift]
      congr 1
      funext rule location
      exact Bool.and_comm _ _

theorem judgeAll_perm {filters permuted : List (List Pattern)} (h : filters.Perm permuted) :
    judgeAll filters = judgeAll permuted := by
  funext rule location
  exact h.all_eq

/-- What every pass counts as removed from a size adds up over all passes. -/
theorem sum_add_eq {removed : Stats → Nat} {size : Value → Nat}
    (h : ∀ patterns report, removed (pass patterns report).2.stats +
      size (pass patterns report).1 = size report)
    (filters : List (List Pattern)) (report : Value) :
    ((passes filters report).2.map removed).sum + size (passes filters report).1 =
      size report := by
  induction filters generalizing report with
  | nil => exact Nat.zero_add _
  | cons patterns filters ih =>
      rw [passes_cons_fst, passes_cons_snd, List.map_cons, List.sum_cons, Nat.add_assoc,
        ih (pass patterns report).1, h patterns report]

/-- So it depends on the report that is left in the end only. -/
theorem sum_eq_of_fst_eq {removed : Stats → Nat} (size : Value → Nat)
    (h : ∀ patterns report, removed (pass patterns report).2.stats +
      size (pass patterns report).1 = size report)
    {filters permuted : List (List Pattern)} {report : Value}
    (hlast : (passes filters report).1 = (passes permuted report).1) :
    ((passes filters report).2.map removed).sum =
      ((passes permuted report).2.map removed).sum := by
  have hfilters := sum_add_eq h filters report
  have hpermuted := sum_add_eq h permuted report
  rw [hlast, ← hpermuted] at hfilters
  exact Nat.add_right_cancel hfilters

/-- Every location that was decided about is removed or left. -/
theorem locationsRemoved_add (patterns : List Pattern) (report : Value) :
    (pass patterns report).2.stats.locationsRemoved +
        locationCount (allResults (pass patterns report).1) =
      locationCount (allResults report) := by
  have hbefore := (pass_balanced patterns report).locationsBefore
  have hafter := (pass_balanced patterns report).locationsAfter
  omega

theorem length_allResults_pass_le (patterns : List Pattern) (report : Value) :
    (allResults (pass patterns report).1).length ≤ (allResults report).length := by
  rw [pass_fst, allResults_sift]
  exact List.length_filterMap_le _ _

theorem resultsRemoved_add (patterns : List Pattern) (report : Value) :
    (pass patterns report).2.stats.resultsRemoved + (allResults (pass patterns report).1).length =
      (allResults report).length := by
  -- The count is a truncated difference, so it needs that no result is added.
  have hle := length_allResults_pass_le patterns report
  have hbefore := (pass_balanced patterns report).resultsBefore
  have hafter := (pass_balanced patterns report).resultsAfter
  rw [Stats.resultsRemoved]
  omega

/-- Excludes or includes the findings of all files and rules. -/
def everything (keeps : Bool) : Pattern where
  keeps := keeps
  file := ⟨Pattern.anyRule, by decide, _, rfl⟩
  rule := ⟨Pattern.anyRule, by decide, _, rfl⟩

/-- A report with one finding. -/
def oneFinding : Value :=
  .object [("runs", .array [.object [("results", .array [.object [("ruleId", .string "r"),
    ("locations", .array [.object [("physicalLocation", .object [("artifactLocation",
      .object [("uri", .string "f")])])]])]])]])]

/-- The last pattern that describes the finding decides. -/
theorem length_allResults_pass_everything (keeps : Bool) :
    (allResults (pass [everything (!keeps), everything keeps] oneFinding).1).length =
      keeps.toNat := by
  cases keeps <;> decide

theorem exists_perm_pass_ne :
    ∃ patterns reordered report, List.Perm patterns reordered ∧
      (pass patterns report).1 ≠ (pass reordered report).1 := by
  refine ⟨[everything false, everything true], [everything true, everything false], oneFinding,
    .swap _ _ _, ?_⟩
  -- The last pattern decides, so one order keeps the finding and the other drops it.
  intro hsame
  have hkept := length_allResults_pass_everything true
  have hdropped := length_allResults_pass_everything false
  rw [Bool.not_true, hsame] at hkept
  rw [Bool.not_false, hkept] at hdropped
  exact absurd hdropped (by decide)

/-- Filters may be applied in any order, unlike the patterns of one of them. The same report
is left, and the passes remove as many locations and results together. -/
theorem passes_perm {filters permuted : List (List Pattern)} (h : filters.Perm permuted)
    (report : Value) :
    (passes filters report).1 = (passes permuted report).1 ∧
      ((passes filters report).2.map Stats.locationsRemoved).sum =
        ((passes permuted report).2.map Stats.locationsRemoved).sum ∧
      ((passes filters report).2.map Stats.resultsRemoved).sum =
        ((passes permuted report).2.map Stats.resultsRemoved).sum ∧
      ∃ patterns reordered other, List.Perm patterns reordered ∧
        (pass patterns other).1 ≠ (pass reordered other).1 := by
  have hlast : (passes filters report).1 = (passes permuted report).1 := by
    rw [passes_fst, passes_fst, judgeAll_perm h]
  refine ⟨hlast, ?_, ?_, exists_perm_pass_ne⟩
  · exact sum_eq_of_fst_eq (fun left => locationCount (allResults left)) locationsRemoved_add hlast
  · exact sum_eq_of_fst_eq (fun left => (allResults left).length) resultsRemoved_add hlast

/-- An exclusion and an inclusion of everything, in both orders. One finding is removed. -/
theorem passes_perm_everything :
    List.Perm [[everything false], [everything true]] [[everything true], [everything false]] ∧
      (passes [[everything false], [everything true]] oneFinding).1 =
        (passes [[everything true], [everything false]] oneFinding).1 ∧
      ((passes [[everything true], [everything false]] oneFinding).2.map
        Stats.resultsRemoved).sum = 1 := by
  have hperm : List.Perm [[everything false], [everything true]]
      [[everything true], [everything false]] := .swap _ _ _
  obtain ⟨hlast, -, hresults, -⟩ := passes_perm hperm oneFinding
  refine ⟨hperm, hlast, ?_⟩
  rw [← hresults]
  decide

end Suppression.Sarif
