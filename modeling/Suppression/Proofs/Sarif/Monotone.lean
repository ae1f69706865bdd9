import Suppression.Proofs.Sarif.Effect
import Suppression.Proofs.Sarif.Exclusion

/-!
# More and fewer patterns

An inclusion that is put anywhere into a filter brings no removal with it, and an exclusion
brings nothing back. It is enough to compare what two filters keep: the report that the
stricter one leaves is thinned out from the report that the other one leaves.
-/

namespace Suppression

namespace Filter

/-- What the second filter keeps, the first one keeps too. -/
def Covers (more less : List Pattern) : Prop :=
  ∀ uri rule, keeps less uri rule = true → keeps more uri rule = true

/-- Patterns further back cover as much as the ones in front of them. -/
theorem Covers.append {more less : List Pattern} (h : Covers more less) (back : List Pattern) :
    Covers (more ++ back) (less ++ back) := by
  intro uri rule hkept
  rw [keeps_append] at hkept ⊢
  cases hdeciding : deciding back uri rule with
  | none =>
      rw [hdeciding] at hkept
      exact h uri rule hkept
  | some pattern =>
      rw [hdeciding] at hkept
      exact hkept

theorem covers_concat_of_include {pattern : Pattern} (h : pattern.keeps = true)
    (front : List Pattern) : Covers (front ++ [pattern]) front := by
  intro uri rule hkept
  rw [keeps_concat, h, hkept, ite_self]

theorem covers_of_concat_exclude {pattern : Pattern} (h : pattern.keeps = false)
    (front : List Pattern) : Covers front (front ++ [pattern]) := by
  intro uri rule hkept
  rw [keeps_concat, h] at hkept
  split at hkept
  next => cases hkept
  next => exact hkept

theorem keeps_of_includes {includes : List Pattern}
    (h : ∀ pattern ∈ includes, pattern.keeps = true) (uri rule : String) :
    keeps includes uri rule = true := by
  rw [keeps_eq_deciding]
  cases hdeciding : deciding includes uri rule with
  | none => rfl
  | some pattern => exact h pattern (mem_of_deciding_eq_some hdeciding)

end Filter

namespace Sarif

open Json (Value)

/-! ## Thinned reports -/

/-- A result with fewer locations, in their order. -/
def ResultTrimmed : Value → Value → Prop :=
  ItemsRewritten "locations" fun locations left => left.Sublist locations

/-- A run with fewer results, in their order, each of them trimmed. -/
def RunThinned : Value → Value → Prop :=
  ItemsRewritten "results" fun results left =>
    List.SublistForall₂ (fun trimmed result => ResultTrimmed result trimmed) left results

def ReportThinned : Value → Value → Prop :=
  ItemsRewritten "runs" (List.Forall₂ RunThinned)

theorem ItemsRewritten.refl {key : String} {rewrites : List Value → List Value → Prop}
    (h : ∀ items, rewrites items items) (value : Value) :
    ItemsRewritten key rewrites value value := by
  have hsame : mapItems key id value = value := mapItems_eq_self (fun _ => rfl) key value
  have hrewritten : ItemsRewritten key rewrites value (mapItems key id value) :=
    itemsRewritten_mapItems h value
  rwa [hsame] at hrewritten

theorem resultTrimmed_of_siftResult {judge : Judge} {result left : Value}
    (h : siftResult judge result = some left) : ResultTrimmed result left := by
  rcases decided_or_not result with ⟨rule, locations, hdecided⟩ | hnone
  · rw [siftResult_of_decided hdecided] at h
    split at h
    next => cases h
    next =>
      have hsublist : (locations.filter (judge rule)).Sublist locations := List.filter_sublist
      exact .rewritten hsublist (fieldReplaced_iff.mpr ⟨hdecided.2.1, Option.some.inj h⟩)
  · rw [siftResult_of_not_decided hnone] at h
    obtain rfl := Option.some.inj h
    exact ItemsRewritten.refl (fun locations => .refl locations) result

theorem sublistForall₂_filterMap {Old New : Type} {relates : New → Old → Prop}
    {change : Old → Option New} (h : ∀ old new, change old = some new → relates new old)
    (olds : List Old) : List.SublistForall₂ relates (olds.filterMap change) olds := by
  induction olds with
  | nil => exact .nil
  | cons old olds ih =>
      cases hchange : change old with
      | none =>
          rw [List.filterMap_cons_none hchange]
          exact .cons_right ih
      | some new =>
          rw [List.filterMap_cons_some hchange]
          exact .cons (h old new hchange) ih

theorem runThinned_siftRun (judge : Judge) (run : Value) :
    RunThinned run (siftRun judge run) := by
  refine itemsRewritten_mapItems (fun results => ?_) run
  exact sublistForall₂_filterMap (fun _ _ => resultTrimmed_of_siftResult) results

/-- Whatever a judge lets stay, the report is thinned out. -/
theorem reportThinned_sift (judge : Judge) (report : Value) :
    ReportThinned report (sift judge report) := by
  refine itemsRewritten_mapItems (fun runs => ?_) report
  rw [List.forall₂_map_right_iff, List.forall₂_same]
  exact fun run _ => runThinned_siftRun judge run

/-! ## Filters that cover others -/

/-- Of every result and of the whole report the second filter leaves a part of what the first
one leaves, and it removes as much or more. -/
structure LeavesLess (report : Value) (more less : List Pattern) : Prop where
  survives : ∀ result left, (passResult less result).1 = some left →
    ∃ whole, (passResult more result).1 = some whole ∧ ResultTrimmed whole left
  thinned : ReportThinned (pass more report).1 (pass less report).1
  locationsRemoved : (pass more report).2.stats.locationsRemoved ≤
    (pass less report).2.stats.locationsRemoved
  resultsRemoved : (pass more report).2.stats.resultsRemoved ≤
    (pass less report).2.stats.resultsRemoved

section Covers

variable {more less : List Pattern} (h : Filter.Covers more less)
include h

/-- Asking the covering filter first makes no difference. -/
theorem judge_and_judge_of_covers :
    (fun rule location => judge less rule location && judge more rule location) =
      judge less := by
  funext rule location
  simp only [judge_apply]
  cases uri? location with
  | none => rfl
  | some uri =>
      cases hless : Filter.keeps less uri rule with
      | false => simp [hless]
      | true => simp [hless, h uri rule hless]

theorem siftResult_bind_of_covers (result : Value) :
    (siftResult (judge more) result).bind (siftResult (judge less)) =
      siftResult (judge less) result := by
  rw [siftResult_bind, judge_and_judge_of_covers h]

theorem pass_pass_of_covers (report : Value) :
    (pass less (pass more report).1).1 = (pass less report).1 := by
  rw [pass_fst, pass_fst, pass_fst, sift_sift, judge_and_judge_of_covers h]

theorem leavesLess_of_covers (report : Value) : LeavesLess report more less := by
  have htwice := pass_pass_of_covers h report
  constructor
  · intro result left hleft
    rw [passResult_fst, ← siftResult_bind_of_covers h] at hleft
    obtain ⟨whole, hwhole, htrimmed⟩ := Option.bind_eq_some_iff.mp hleft
    rw [passResult_fst]
    exact ⟨whole, hwhole, resultTrimmed_of_siftResult htrimmed⟩
  · rw [← htwice, pass_fst less]
    exact reportThinned_sift _ _
  · -- What the second pass would still remove is what it removes more.
    have hmore := locationsRemoved_add more report
    have hless := locationsRemoved_add less report
    have hbetween := locationsRemoved_add less (pass more report).1
    rw [htwice] at hbetween
    omega
  · have hmore := resultsRemoved_add more report
    have hless := resultsRemoved_add less report
    have hbetween := resultsRemoved_add less (pass more report).1
    rw [htwice] at hbetween
    omega

end Covers

/-! ## Filters that keep the same -/

section Same

variable {patterns others : List Pattern}
  (h : ∀ uri rule, Filter.keeps patterns uri rule = Filter.keeps others uri rule)
include h

theorem passResult_congr (result : Value) :
    passResult patterns result = passResult others result := by
  have hverdict : Verdict.of patterns = Verdict.of others := by
    funext rule location
    simp only [Verdict.of, h]
  unfold passResult
  rw [hverdict]

theorem passResults_congr (index : Nat) (results : List Value) :
    passResults patterns index results = passResults others index results := by
  induction results generalizing index with
  | nil => rfl
  | cons result results ih =>
      unfold passResults
      rw [passResult_congr h, ih]

theorem passRuns_congr (index : Nat) (runs : List Value) :
    passRuns patterns index runs = passRuns others index runs := by
  induction runs generalizing index with
  | nil => rfl
  | cons run runs ih =>
      unfold passRuns passRun
      simp only [passResults_congr h, ih]

/-- A pass depends on what its patterns keep only, with all it counts and reports. -/
theorem pass_congr (report : Value) : pass patterns report = pass others report := by
  unfold pass
  simp only [passRuns_congr h]

end Same

/-- Put anywhere into a filter, an inclusion removes nothing that was left without it, and an
exclusion brings nothing back. An inclusion behind nothing but inclusions makes no difference
at all, and inclusions alone leave every report as it is. -/
theorem pass_insert (front back : List Pattern) (pattern : Pattern) (report : Value) :
    (pattern.keeps = true →
      LeavesLess report (front ++ [pattern] ++ back) (front ++ back)) ∧
    (pattern.keeps = false →
      LeavesLess report (front ++ back) (front ++ [pattern] ++ back)) ∧
    (pattern.keeps = true → (∀ other ∈ front, other.keeps = true) →
      pass (front ++ [pattern] ++ back) report = pass (front ++ back) report) ∧
    ∀ includes : List Pattern, (∀ other ∈ includes, other.keeps = true) →
      (pass includes report).1 = report := by
  refine ⟨?_, ?_, ?_, ?_⟩
  · intro hinclude
    have hfront := Filter.covers_concat_of_include hinclude front
    exact leavesLess_of_covers (hfront.append back) report
  · intro hexclude
    have hfront := Filter.covers_of_concat_exclude hexclude front
    exact leavesLess_of_covers (hfront.append back) report
  · intro hinclude hincludes
    have hconcat : ∀ other ∈ front ++ [pattern], other.keeps = true :=
      List.forall_mem_append.mpr ⟨hincludes, List.forall_mem_singleton.mpr hinclude⟩
    apply pass_congr
    intro uri rule
    rw [Filter.keeps_append (front ++ [pattern]), Filter.keeps_of_includes hconcat,
      Filter.keeps_append, Filter.keeps_of_includes hincludes]
  · intro includes hincludes
    have hjudge : judge includes = fun _ _ => true := by
      funext rule location
      rw [judge_apply, Option.all_eq_true]
      exact fun uri _ => Filter.keeps_of_includes hincludes uri rule
    rw [pass_fst, hjudge, sift_true]

/-- Inclusions and exclusions of everything, around one finding that an inclusion saves. -/
theorem pass_insert_everything :
    LeavesLess oneFinding [everything false, everything true] [everything false] ∧
      (pass [everything false] oneFinding).2.stats.resultsRemoved = 1 ∧
      (pass [everything false, everything true] oneFinding).2.stats.resultsRemoved = 0 ∧
      LeavesLess oneFinding [everything true] [everything true, everything false] ∧
      pass [everything true, everything true, everything false] oneFinding =
        pass [everything true, everything false] oneFinding ∧
      (pass [everything true] oneFinding).1 = oneFinding := by
  have hincludes : ∀ other ∈ [everything true], other.keeps = true := by simp [everything]
  obtain ⟨hinclude, -, -, hunchanged⟩ :=
    pass_insert [everything false] [] (everything true) oneFinding
  obtain ⟨-, hexclude, -, -⟩ := pass_insert [everything true] [] (everything false) oneFinding
  obtain ⟨-, -, hsame, -⟩ :=
    pass_insert [everything true] [everything false] (everything true) oneFinding
  exact ⟨hinclude rfl, by decide, by decide, hexclude rfl, hsame rfl hincludes,
    hunchanged _ hincludes⟩

end Sarif

end Suppression
