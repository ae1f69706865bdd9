import Suppression.Proofs.Sarif.Findings
import Suppression.Proofs.Sarif.Totals

/-!
# Merging reports

A report with the runs of two reports is filtered and tallied as they are, one behind the
other, and so is a run with the results of two runs. What a pass makes of an entry depends on
nothing in front of it, and what it counts is a total over all entries, so nothing happens at
the seam.
-/

namespace Suppression.Sarif

open Json (Value)

/-- The report with other runs. -/
def withRuns (runs : List Value) (report : Value) : Value := withField "runs" (.array runs) report

/-- The run with other results. -/
def withResults (results : List Value) (run : Value) : Value :=
  withField "results" (.array results) run

/-- The merged report is the first one with the runs of both, before a pass and after it, and
what is counted adds up. -/
structure RunsMerged (patterns : List Pattern) (first second merged : Value) : Prop where
  left : (pass patterns merged).1 =
    withRuns (runs (pass patterns first).1 ++ runs (pass patterns second).1) first
  stats : (pass patterns merged).2.stats =
    (pass patterns first).2.stats + (pass patterns second).2.stats
  total : ∀ fallback, (tally fallback merged).total =
    (tally fallback first).total + (tally fallback second).total
  byRule : ∀ fallback rule, (tally fallback merged).byRule.count rule =
    (tally fallback first).byRule.count rule + (tally fallback second).byRule.count rule
  byLevel : ∀ fallback level, (tally fallback merged).byLevel.count level =
    (tally fallback first).byLevel.count level + (tally fallback second).byLevel.count level

/-- The run at the position is left with the results that are left of two reports in which it
stands alone, with a part of its results in each. It counts as much as both of them, but it is
one run. -/
structure ResultsMerged (patterns : List Pattern) (report others : Value) (position : Nat)
    (run early late : Value) : Prop where
  left : (runs (pass patterns report).1)[position]? = some
    (withResults (allResults (pass patterns early).1 ++ allResults (pass patterns late).1) run)
  stats : (pass patterns report).2.stats + { runs := 1 } =
    (pass patterns others).2.stats +
      ((pass patterns early).2.stats + (pass patterns late).2.stats)

/-! ## Totals of joined lists -/

instance : Std.Associative fun left right : Stats => left + right := ⟨Stats.add_assoc⟩

instance : Std.Commutative fun left right : Stats => left + right := ⟨Stats.add_comm⟩

theorem runs_of_get? {report : Value} {items : List Value}
    (h : report.get? "runs" = some (.array items)) : runs report = items :=
  itemsAt_of_get? h

theorem pass_of_get? {report : Value} {items : List Value}
    (h : report.get? "runs" = some (.array items)) (patterns : List Pattern) :
    pass patterns report =
      (withRuns (passRuns patterns 0 items).1 report, (passRuns patterns 0 items).2) := by
  simp only [pass, h, withRuns]

theorem stats_pass_of_get? {report : Value} {items : List Value}
    (h : report.get? "runs" = some (.array items)) (patterns : List Pattern) :
    (pass patterns report).2.stats = Stats.total (items.map (runStats patterns)) := by
  rw [pass_of_get? h, stats_passRuns]

theorem pass_fst_of_get? {report : Value} {items : List Value}
    (h : report.get? "runs" = some (.array items)) (patterns : List Pattern) :
    (pass patterns report).1 = withRuns (items.map (siftRun (judge patterns))) report := by
  rw [pass_of_get? h, passRuns_fst]

theorem passRun_of_get? {run : Value} {items : List Value}
    (h : run.get? "results" = some (.array items)) (patterns : List Pattern) (index : Nat) :
    passRun patterns index run =
      (withResults (passResults patterns 0 items).1 run,
        ⟨{ runs := 1 }, []⟩ ++ (passResults patterns 0 items).2 ++
          ⟨{}, [.runDone index (passResults patterns 0 items).1.length]⟩) := by
  obtain ⟨fields, rfl, -⟩ := exists_fields_of_get? h
  simp only [passRun, h, Value.isObject, Bool.not_true, Bool.false_eq_true, if_false, withResults]

/-- A run counts itself and its results. -/
theorem runStats_of_get? {run : Value} {items : List Value}
    (h : run.get? "results" = some (.array items)) (patterns : List Pattern) :
    runStats patterns run = { runs := 1 } + Stats.total (items.map (resultStats patterns)) := by
  rw [runStats, passRun_of_get? h, Account.stats_append, Account.stats_append, Stats.add_zero,
    stats_passResults]

/-! ## Runs of two reports -/

section Runs

variable {first second : Value} {firstRuns secondRuns : List Value}
  (hfirst : first.get? "runs" = some (.array firstRuns))
  (hsecond : second.get? "runs" = some (.array secondRuns))
include hfirst

theorem get?_withRuns (items : List Value) :
    (withRuns items first).get? "runs" = some (.array items) :=
  get?_withField_self _ hfirst

include hsecond

theorem allFindings_withRuns_append :
    allFindings (withRuns (firstRuns ++ secondRuns) first) =
      allFindings first ++ allFindings second := by
  rw [allFindings, runs_of_get? (get?_withRuns hfirst _), List.flatMap_append, allFindings,
    allFindings, runs_of_get? hfirst, runs_of_get? hsecond]

theorem runsMerged (patterns : List Pattern) :
    RunsMerged patterns first second (withRuns (firstRuns ++ secondRuns) first) := by
  have hmerged := get?_withRuns hfirst (firstRuns ++ secondRuns)
  have hfindings := allFindings_withRuns_append hfirst hsecond
  constructor
  · rw [pass_fst_of_get? hmerged, pass_fst_of_get? hfirst, pass_fst_of_get? hsecond,
      runs_of_get? (get?_withRuns hfirst _), runs_of_get? (get?_withRuns hsecond _),
      List.map_append]
    exact withField_withField ..
  · rw [stats_pass_of_get? hmerged, stats_pass_of_get? hfirst, stats_pass_of_get? hsecond,
      List.map_append, Stats.total_append]
  · intro fallback
    exact (congrArg List.length hfindings).trans List.length_append
  · intro fallback rule
    rw [count_byRule, count_byRule, count_byRule, ← List.count_append, ← List.map_append]
    exact congrArg (fun found => (found.map ruleKey).count rule) hfindings
  · intro fallback level
    rw [count_byLevel, count_byLevel, count_byLevel, ← List.count_append, ← List.map_append]
    exact congrArg (fun found => (found.map levelKey).count level) hfindings

end Runs

/-! ## Results of one run -/

section Results

variable {report run : Value} {front back early late : List Value}
  (hreport : report.get? "runs" = some (.array (front ++ run :: back)))
  (hrun : run.get? "results" = some (.array (early ++ late)))
include hreport hrun

/-- If the run stands alone, what is left of its results is all that is left. -/
theorem allResults_pass_alone (patterns : List Pattern) (items : List Value) :
    allResults (pass patterns (withRuns [withResults items run] report)).1 =
      items.filterMap (siftResult (judge patterns)) := by
  have hitems : (withResults items run).get? "results" = some (.array items) :=
    get?_withField_self _ hrun
  rw [pass_fst, allResults_sift, allResults, runs_of_get? (get?_withRuns hreport _),
    List.flatMap_singleton, results, itemsAt_of_get? hitems]

theorem stats_pass_alone (patterns : List Pattern) (items : List Value) :
    (pass patterns (withRuns [withResults items run] report)).2.stats =
      { runs := 1 } + Stats.total (items.map (resultStats patterns)) := by
  have hitems : (withResults items run).get? "results" = some (.array items) :=
    get?_withField_self _ hrun
  rw [stats_pass_of_get? (get?_withRuns hreport _), List.map_singleton, Stats.total_cons,
    Stats.total_nil, Stats.add_zero, runStats_of_get? hitems]

theorem resultsMerged (patterns : List Pattern) :
    ResultsMerged patterns report (withRuns (front ++ back) report) front.length run
      (withRuns [withResults early run] report) (withRuns [withResults late run] report) := by
  constructor
  · have hleft : siftRun (judge patterns) run =
        withResults ((early ++ late).filterMap (siftResult (judge patterns))) run := by
      rw [siftRun, mapItems_of_get? hrun, withResults]
    rw [allResults_pass_alone hreport hrun, allResults_pass_alone hreport hrun,
      ← List.filterMap_append, ← hleft, pass_fst_of_get? hreport,
      runs_of_get? (get?_withRuns hreport _)]
    simp
  · -- Both sides are sums of the same counts, of the other runs, the results and two runs.
    rw [stats_pass_alone hreport hrun, stats_pass_alone hreport hrun, stats_pass_of_get? hreport,
      stats_pass_of_get? (get?_withRuns hreport _), List.map_append, List.map_append, List.map_cons,
      Stats.total_append, Stats.total_append, Stats.total_cons, runStats_of_get? hrun,
      List.map_append, Stats.total_append]
    ac_rfl

end Results

/-- Filtering and tallying commute with merging reports, and filtering with merging the results
of a run, wherever it stands in its report. -/
theorem pass_merged (patterns : List Pattern) :
    (∀ first second firstRuns secondRuns,
      first.get? "runs" = some (.array firstRuns) →
      second.get? "runs" = some (.array secondRuns) →
        RunsMerged patterns first second (withRuns (firstRuns ++ secondRuns) first)) ∧
    ∀ report run front back early late,
      report.get? "runs" = some (.array (front ++ run :: back)) →
      run.get? "results" = some (.array (early ++ late)) →
        ResultsMerged patterns report (withRuns (front ++ back) report) front.length run
          (withRuns [withResults early run] report) (withRuns [withResults late run] report) :=
  ⟨fun _ _ _ _ hfirst hsecond => runsMerged hfirst hsecond patterns,
    fun _ _ _ _ _ _ hreport hrun => resultsMerged hreport hrun patterns⟩

/-- A run with a result that is no object in front of the finding. -/
def raggedRun : Value := .object [("results", .array ([.null] ++ allResults oneFinding))]

/-- The ragged run behind a run that is no object. -/
def raggedReport : Value := .object [("runs", .array ([.null] ++ raggedRun :: []))]

/-- Malformed entries on both sides of the seams, and two findings that are both removed. -/
theorem pass_merged_ragged :
    oneFinding.get? "runs" = some (.array (runs oneFinding)) ∧
      raggedReport.get? "runs" = some (.array ([.null] ++ raggedRun :: [])) ∧
      raggedRun.get? "results" = some (.array ([.null] ++ allResults oneFinding)) ∧
      RunsMerged [everything false] raggedReport oneFinding
        (withRuns ([.null] ++ raggedRun :: [] ++ runs oneFinding) raggedReport) ∧
      (pass [everything false]
          (withRuns ([.null] ++ raggedRun :: [] ++ runs oneFinding) raggedReport)).2.stats =
        { runs := 3, resultsBefore := 3, resultsAfter := 1, locationsBefore := 2,
          locationsRemoved := 2, malformed := 2 } ∧
      ResultsMerged [everything false] raggedReport (withRuns ([.null] ++ []) raggedReport) 1
        raggedRun (withRuns [withResults [.null] raggedRun] raggedReport)
        (withRuns [withResults (allResults oneFinding) raggedRun] raggedReport) := by
  obtain ⟨hruns, hresults⟩ := pass_merged [everything false]
  have hmerged := hruns raggedReport oneFinding ([.null] ++ raggedRun :: []) (runs oneFinding)
    rfl rfl
  refine ⟨rfl, rfl, rfl, hmerged, ?_, ?_⟩
  · rw [hmerged.stats]
    decide
  · exact hresults raggedReport raggedRun [.null] [] [.null] (allResults oneFinding) rfl rfl

end Suppression.Sarif
