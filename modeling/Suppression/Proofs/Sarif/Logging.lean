import Suppression.Proofs.Sarif.Effect
import Suppression.Proofs.Sarif.Merging

/-!
# The log of a pass

The log tells as much as the statistics do, and which results they are about. Every event
stands for what it counts, and the level and the text of its entry tell its kind. So the
statistics but the number of runs are totals over the log. Among the entries of a run those
about whole results stand in the order of these, whatever stands between them.
-/

namespace Suppression.Sarif

open Json (Value)

/-! ## Entries -/

/-- What an entry tells about a location, a result or a run. -/
inductive Kind where
  | locationRemoved
  | locationKept
  /-- A location that names no file stays. -/
  | locationPassedOver
  | resultKept
  | resultRemoved
  | runEnd
  deriving DecidableEq, Repr

namespace Kind

def level : Kind → Log.Level
  | .locationPassedOver => .warn
  | .resultRemoved => .info
  | _ => .debug

/-- How the messages of a kind begin. -/
def opening : Kind → String
  | .locationRemoved => "Removed "
  | .locationKept => "Added location to results: "
  | .locationPassedOver => "Keeping location without a string uri "
  | .resultKept => "Kept result "
  | .resultRemoved => "Empty locations, removed result "
  | .runEnd => "Run "

/-- How the messages of a kind end. -/
def closing : Kind → String
  | .locationRemoved => " from results"
  | .runEnd => " results"
  | _ => ""

/-- The level and the message of an entry are those of the kind. -/
def tells (kind : Kind) (entry : Log.Entry) : Bool :=
  entry.level = kind.level && kind.opening.toList.isPrefixOf entry.message.toList &&
    kind.closing.toList.isSuffixOf entry.message.toList

end Kind

/-- The entry is about a whole result or a whole run. -/
def isMilestone (entry : Log.Entry) : Bool :=
  Kind.tells .resultKept entry || Kind.tells .resultRemoved entry || Kind.tells .runEnd entry

/-- What is logged about the result at an index of its run. -/
def outcomeEntry (index : Nat) : Option Value → Log.Entry
  | some _ => Log.debug .reports ("Kept result " ++ toString index)
  | none => Log.info .reports ("Empty locations, removed result " ++ toString index)

/-- What is logged at the end of a run. -/
def endEntry (run kept : Nat) : Log.Entry :=
  Log.debug .reports ("Run " ++ toString run ++ " keeps " ++ toString kept ++ " results")

/-- The log of a part of a report. -/
def Account.log (account : Account) : List Log.Entry := account.events.map Event.entry

/-- The statistics but for the number of runs are those of the log. -/
structure Confirms (log : List Log.Entry) (stats : Stats) : Prop where
  malformed : log.countP (fun entry => entry.level = .warn) = stats.malformed
  locationsRemoved : log.countP (Kind.tells .locationRemoved) = stats.locationsRemoved
  locationsBefore : log.countP (Kind.tells .locationRemoved) +
    log.countP (Kind.tells .locationKept) + log.countP (Kind.tells .locationPassedOver) =
      stats.locationsBefore
  resultsAfter : log.countP (Kind.tells .resultKept) = stats.resultsAfter
  resultsRemoved :
    log.countP (Kind.tells .resultRemoved) = stats.resultsBefore - stats.resultsAfter
  after_le : stats.resultsAfter ≤ stats.resultsBefore

/-- The log of the run at an index tells what became of its results one after the other, and how
many are left in the end. A run without an array of results has no such entries. -/
inductive RunLogged (patterns : List Pattern) (index : Nat) (run left : Value)
    (log : List Log.Entry) : Prop where
  | results {items : List Value} {outcomes : List (Option Value)} {front : List Log.Entry}
      (hitems : run.get? "results" = some (.array items))
      (houtcomes : List.Forall₂ (ResultLeft patterns) items outcomes)
      (hleft : left.get? "results" = some (.array outcomes.reduceOption))
      (hlog : log = front ++ [endEntry index outcomes.reduceOption.length])
      (hfront : front.filter isMilestone = outcomes.mapIdx outcomeEntry) :
      RunLogged patterns index run left log
  | noResults (hnone : ∀ items, run.get? "results" ≠ some (.array items))
      (hlog : log.filter isMilestone = []) : RunLogged patterns index run left log

/-- The log of the runs from an index on consists of the logs of each. -/
inductive RunsLogged (patterns : List Pattern) :
    Nat → List Value → List Value → List Log.Entry → Prop where
  | nil (index : Nat) : RunsLogged patterns index [] [] []
  | cons {index : Nat} {run left : Value} {runs lefts : List Value}
      {log logs : List Log.Entry} (hrun : RunLogged patterns index run left log)
      (hruns : RunsLogged patterns (index + 1) runs lefts logs) :
      RunsLogged patterns index (run :: runs) (left :: lefts) (log ++ logs)

/-! ## Kinds of events -/

def Event.kind? : Event → Option Kind
  | .locationRemoved _ => some .locationRemoved
  | .locationKept _ => some .locationKept
  | .uriNotText _ => some .locationPassedOver
  | .resultKept _ => some .resultKept
  | .resultRemoved _ => some .resultRemoved
  | .runDone .. => some .runEnd
  | _ => none

theorem tells_entry (kind : Kind) (event : Event) :
    kind.tells event.entry = decide (event.kind? = some kind) := by
  cases kind <;> cases event <;>
    simp only [Kind.tells, Event.entry, Log.debug, Log.info, Log.warn, String.toList_append]
  -- The level and the first letters decide, but what ends an entry stands behind any text.
  case locationRemoved.locationRemoved =>
    simp [Kind.level, Kind.opening, Kind.closing, Event.kind?, List.isSuffixOf]
  case runEnd.runDone =>
    simp [Kind.level, Kind.opening, Kind.closing, Event.kind?, List.isSuffixOf]
  all_goals rfl

/-! ## Counts in the log -/

theorem Account.log_append (left right : Account) : (left ++ right).log = left.log ++ right.log :=
  List.map_append

theorem Confirms.append {log logs : List Log.Entry} {stats others : Stats}
    (h : Confirms log stats) (hothers : Confirms logs others) :
    Confirms (log ++ logs) (stats + others) := by
  -- The differences add up because none of them is truncated.
  have hle := h.after_le
  have hle' := hothers.after_le
  refine ⟨?_, ?_, ?_, ?_, ?_, Nat.add_le_add hle hle'⟩
  · rw [List.countP_append, h.malformed, hothers.malformed]
    rfl
  · rw [List.countP_append, h.locationsRemoved, hothers.locationsRemoved]
    rfl
  · simp only [List.countP_append]
    change _ = stats.locationsBefore + others.locationsBefore
    rw [← h.locationsBefore, ← hothers.locationsBefore]
    omega
  · rw [List.countP_append, h.resultsAfter, hothers.resultsAfter]
    rfl
  · rw [List.countP_append, h.resultsRemoved, hothers.resultsRemoved]
    change _ = stats.resultsBefore + others.resultsBefore -
      (stats.resultsAfter + others.resultsAfter)
    omega

/-- What an event stands for in the statistics. -/
def Event.counted : Event → Stats
  | .noRuns | .runDone .. => {}
  | .runsNotArray | .runNotObject _ | .resultsNotArray _ => { malformed := 1 }
  | .resultNotObject | .locationsNotArray | .ruleNotText => { malformed := 1 }
  | .uriNotText _ => { locationsBefore := 1, malformed := 1 }
  | .locationKept _ => { locationsBefore := 1 }
  | .locationRemoved _ => { locationsBefore := 1, locationsRemoved := 1 }
  | .resultKept _ => { resultsBefore := 1, resultsAfter := 1 }
  | .resultRemoved _ => { resultsBefore := 1 }

theorem confirms_entry (event : Event) : Confirms [event.entry] event.counted := by
  have hle : event.counted.resultsAfter ≤ event.counted.resultsBefore := by
    cases event <;> simp [Event.counted]
  refine ⟨?_, ?_, ?_, ?_, ?_, hle⟩ <;>
    simp only [List.countP_singleton, tells_entry] <;> cases event <;> rfl

/-- The log of the account confirms its statistics. -/
def Account.Confirmed (account : Account) : Prop := Confirms account.log account.stats

theorem confirmed_singleton {stats : Stats} {event : Event} (h : stats = event.counted) :
    Account.Confirmed ⟨stats, [event]⟩ := by
  subst h
  exact confirms_entry event

theorem Account.Confirmed.append {left right : Account} (hleft : left.Confirmed)
    (hright : right.Confirmed) : (left ++ right).Confirmed := by
  rw [Account.Confirmed, Account.log_append]
  exact Confirms.append hleft hright

/-- What counts only runs needs no entry. -/
theorem confirmed_runs (runs : Nat) : Account.Confirmed ⟨{ runs := runs }, []⟩ :=
  ⟨rfl, rfl, rfl, rfl, rfl, Nat.le_refl 0⟩

theorem confirmed_account (rule : String) (verdict : Verdict) :
    (verdict.account rule).Confirmed := by
  cases verdict <;> exact confirmed_singleton rfl

theorem confirmed_passResult (patterns : List Pattern) (result : Value) :
    (passResult patterns result).2.Confirmed := by
  unfold passResult
  cases Shape.of result with
  | noLocations => exact confirmed_runs 0
  | decidable rule locations =>
      change Account.Confirmed (locations.foldr _ _)
      induction locations with
      | nil => exact confirmed_runs 0
      | cons location locations ih => exact (confirmed_account ..).append ih
  | _ => exact confirmed_singleton rfl

/-- What a pass accounts for the outcome of the result at an index. -/
def outcomeAccount (index : Nat) : Option Value → Account
  | some _ => ⟨{ resultsBefore := 1, resultsAfter := 1 }, [.resultKept index]⟩
  | none => ⟨{ resultsBefore := 1 }, [.resultRemoved index]⟩

theorem passResults_cons_snd (patterns : List Pattern) (index : Nat) (result : Value)
    (results : List Value) :
    (passResults patterns index (result :: results)).2 =
      (passResult patterns result).2 ++
        outcomeAccount index (siftResult (judge patterns) result) ++
        (passResults patterns (index + 1) results).2 := by
  rw [passResults, ← passResult_fst]
  cases passResult patterns result with
  | mk left account => cases left <;> rfl

theorem confirmed_passResults (patterns : List Pattern) (index : Nat) (results : List Value) :
    (passResults patterns index results).2.Confirmed := by
  induction results generalizing index with
  | nil => exact confirmed_runs 0
  | cons result results ih =>
      have houtcome : (outcomeAccount index (siftResult (judge patterns) result)).Confirmed := by
        cases siftResult (judge patterns) result <;> exact confirmed_singleton rfl
      rw [passResults_cons_snd]
      exact ((confirmed_passResult patterns result).append houtcome).append (ih (index + 1))

theorem confirmed_passRun (patterns : List Pattern) (index : Nat) (run : Value) :
    (passRun patterns index run).2.Confirmed := by
  have hvisited := confirmed_runs 1
  unfold passRun
  split
  next => exact hvisited.append (confirmed_singleton rfl)
  next =>
    split
    next => exact hvisited
    next items hitems =>
      exact (hvisited.append (confirmed_passResults patterns 0 items)).append
        (confirmed_singleton rfl)
    next => exact hvisited.append (confirmed_singleton rfl)

theorem confirmed_passRuns (patterns : List Pattern) (index : Nat) (runs : List Value) :
    (passRuns patterns index runs).2.Confirmed := by
  induction runs generalizing index with
  | nil => exact confirmed_runs 0
  | cons run runs ih => exact (confirmed_passRun patterns index run).append (ih (index + 1))

theorem confirmed_pass (patterns : List Pattern) (report : Value) :
    (pass patterns report).2.Confirmed := by
  unfold pass
  split
  next => exact confirmed_singleton rfl
  next => exact confirmed_passRuns ..
  next => exact confirmed_singleton rfl

/-! ## Results in the log -/

def Event.isMilestone : Event → Bool
  | .resultKept _ | .resultRemoved _ | .runDone .. => true
  | _ => false

theorem isMilestone_entry (event : Event) : isMilestone event.entry = event.isMilestone := by
  rw [isMilestone, tells_entry, tells_entry, tells_entry]
  cases event <;> rfl

theorem filter_isMilestone_log (account : Account) :
    account.log.filter isMilestone =
      (account.events.filter Event.isMilestone).map Event.entry := by
  rw [Account.log, List.filter_map, ← funext isMilestone_entry]
  rfl

theorem milestones_account (rule : String) (verdict : Verdict) :
    (verdict.account rule).log.filter isMilestone = [] := by
  rw [filter_isMilestone_log]
  cases verdict <;> rfl

/-- What is logged about the locations of a result is no milestone. -/
theorem milestones_passResult (patterns : List Pattern) (result : Value) :
    (passResult patterns result).2.log.filter isMilestone = [] := by
  unfold passResult
  cases Shape.of result with
  | decidable rule locations =>
      change (Account.log (locations.foldr _ _)).filter isMilestone = []
      induction locations with
      | nil => rfl
      | cons location locations ih =>
          rw [List.foldr_cons, Account.log_append, List.filter_append, ih, milestones_account]
          rfl
  | _ => exact filter_isMilestone_log _

theorem milestones_outcomeAccount (index : Nat) (outcome : Option Value) :
    (outcomeAccount index outcome).log.filter isMilestone = [outcomeEntry index outcome] := by
  rw [filter_isMilestone_log]
  cases outcome <;> rfl

/-- The results of a run are counted from the index on, also those that are not left. -/
theorem milestones_passResults (patterns : List Pattern) (index : Nat) (results : List Value) :
    (passResults patterns index results).2.log.filter isMilestone =
      (results.map (siftResult (judge patterns))).mapIdx fun position =>
        outcomeEntry (index + position) := by
  induction results generalizing index with
  | nil => rfl
  | cons result results ih =>
      rw [passResults_cons_snd, Account.log_append, Account.log_append, List.filter_append,
        List.filter_append, milestones_passResult, milestones_outcomeAccount, ih, List.map_cons,
        List.mapIdx_cons]
      simp only [Nat.add_zero, Nat.add_assoc, Nat.add_comm 1]
      rfl

theorem runLogged_passRun (patterns : List Pattern) (index : Nat) (run : Value) :
    RunLogged patterns index run (passRun patterns index run).1
      (passRun patterns index run).2.log := by
  rcases array_or_not "results" run with ⟨items, hitems⟩ | hnone
  · have hreduce : (items.map (siftResult (judge patterns))).reduceOption =
        (passResults patterns 0 items).1 := by
      rw [passResults_fst, List.reduceOption, List.filterMap_map]
      rfl
    rw [passRun_of_get? hitems]
    apply RunLogged.results hitems ((forall₂_iff_map_eq (resultLeft_iff patterns)).mpr rfl)
    · rw [hreduce]
      exact get?_withField_self _ hitems
    · rw [hreduce, Account.log_append, Account.log_append]
      rfl
    · have hfront := milestones_passResults patterns 0 items
      simp only [Nat.zero_add] at hfront
      exact hfront
  · apply RunLogged.noResults hnone
    rw [filter_isMilestone_log]
    unfold passRun
    split
    next => rfl
    next =>
      split
      next => rfl
      next items hitems => exact absurd hitems (hnone items)
      next => rfl

theorem runsLogged_passRuns (patterns : List Pattern) (index : Nat) (runs : List Value) :
    RunsLogged patterns index runs (passRuns patterns index runs).1
      (passRuns patterns index runs).2.log := by
  induction runs generalizing index with
  | nil => exact .nil index
  | cons run runs ih =>
      have hlog : (passRuns patterns index (run :: runs)).2.log =
          (passRun patterns index run).2.log ++ (passRuns patterns (index + 1) runs).2.log :=
        Account.log_append ..
      rw [hlog]
      exact .cons (runLogged_passRun patterns index run) (ih (index + 1))

/-- The log of a pass confirms its statistics, and tells of every run with results what became
of each of them and how many are left. -/
theorem pass_logged (patterns : List Pattern) (report : Value) :
    Confirms (pass patterns report).2.log (pass patterns report).2.stats ∧
      ∀ items, report.get? "runs" = some (.array items) →
        RunsLogged patterns 0 items (runs (pass patterns report).1)
          (pass patterns report).2.log := by
  refine ⟨confirmed_pass patterns report, ?_⟩
  intro items hruns
  rw [pass_of_get? hruns, runs_of_get? (get?_withRuns hruns _)]
  exact runsLogged_passRuns patterns 0 items

/-- A run that is no object, and one whose first result is kept for its shape. -/
theorem pass_logged_ragged :
    raggedReport.get? "runs" = some (.array (runs raggedReport)) ∧
      (pass [everything false] raggedReport).2.events = [.runNotObject 0, .resultNotObject,
        .resultKept 0, .locationRemoved "f", .resultRemoved 1, .runDone 1 1] ∧
      Confirms (pass [everything false] raggedReport).2.log
        { runs := 2, resultsBefore := 2, resultsAfter := 1, locationsBefore := 1,
          locationsRemoved := 1, malformed := 2 } ∧
      RunsLogged [everything false] 0 (runs raggedReport)
        (runs (pass [everything false] raggedReport).1)
        (pass [everything false] raggedReport).2.log := by
  obtain ⟨hconfirms, hruns⟩ := pass_logged [everything false] raggedReport
  have hstats : (pass [everything false] raggedReport).2.stats =
      { runs := 2, resultsBefore := 2, resultsAfter := 1, locationsBefore := 1,
        locationsRemoved := 1, malformed := 2 } := by decide
  rw [hstats] at hconfirms
  exact ⟨rfl, by decide, hconfirms, hruns _ rfl⟩

end Suppression.Sarif
