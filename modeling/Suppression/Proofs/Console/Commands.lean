import Suppression.Console.Program
import Suppression.Proofs.Sarif.Tasks

/-!
# What commands do to files

A command fails before it changes a file. The one failure that comes later, that the spaces
of a level do not fit into memory, breaks the program off, and its exit code is another one.
Only what succeeds answers anything.
-/

namespace Suppression.Console

open Files (Tree)
open Sarif (Desk Tally Written FileFiltered)

/-! ## Counting the findings of a file -/

/-- How counting the findings of a file ends, and the files it leaves. The tool that does not
name itself has the name `fallback`. -/
inductive FileTallied (fallback : String) (indent : Nat) (input : String) (tree : Tree) :
    Option String → Except Failure Tally → Tree → Prop where
  | noReport {report : Option String} {failure : Failure}
      (hread : Sarif.read tree input = .error failure) :
      FileTallied fallback indent input tree report (.error failure) tree
  | counted {document : Json.Value} (hread : Sarif.read tree input = .ok document) :
      FileTallied fallback indent input tree none (.ok (Sarif.tally fallback document)) tree
  | passed {document : Json.Value} {path : String} {result : Except Failure Unit} {after : Tree}
      (hread : Sarif.read tree input = .ok document)
      (hwritten : Written path indent (Sarif.tally fallback document).document tree result after) :
      FileTallied fallback indent input tree (some path)
        (result.map fun _ => Sarif.tally fallback document) after

theorem fileTallied_of_run {settings : Settings} {input : String} {report : Option String}
    {desk after : Desk} {result : Except Failure Tally}
    (h : (tallyTask settings input report).run.run desk = (result, after)) :
    FileTallied settings.reporting.fallback settings.filtering.indent input desk.tree report
      result after.tree := by
  generalize hfallback : settings.reporting.fallback = fallback
  rw [tallyTask, Sarif.Task.run_bind, Sarif.run_tallyFile] at h
  cases hread : Sarif.read desk.tree input with
  | error failure =>
      rw [hread] at h
      cases h
      exact .noReport hread
  | ok document =>
      rw [hread, hfallback] at h
      cases report with
      | none =>
          cases h
          exact .counted hread
      | some path =>
          change ((Sarif.writeTally path settings.filtering.indent (Sarif.tally fallback document)
            >>= fun _ => pure (Sarif.tally fallback document) : Sarif.Task Tally)).run.run _ = _ at h
          rw [Sarif.writeTally, Sarif.Task.run_bind, Sarif.Task.run_bind] at h
          generalize hwrite : (Sarif.writeFile path settings.filtering.indent
            (Sarif.tally fallback document).document).run.run _ = outcome at h
          obtain ⟨written, left⟩ := outcome
          have hwritten := Sarif.written_of_run hwrite
          -- What is reported in the end changes no file.
          cases written with
          | error failure =>
              cases h
              exact .passed hread hwritten
          | ok value =>
              cases h
              exact .passed hread hwritten

/-! ## Commands -/

section

variable (settings : Settings) (tree : Tree)

/-- A filter command filters a file, with what the command line gives in place of the settings. -/
theorem exists_fileFiltered_runFilter (quiet : Bool) (input output : String)
    (patterns : Option String) (indent : Option Nat) :
    ∃ result,
      FileFiltered input output (overridden settings.filtering patterns indent) tree result
        (runFilter settings quiet input output patterns indent tree).tree ∧
      (runFilter settings quiet input output patterns indent tree).result =
        result.map fun stats => if quiet then none else
          some (.filtered input output (overridden settings.filtering patterns indent).patterns
            stats) := by
  generalize hrun : (Sarif.filterFile input output
    (overridden settings.filtering patterns indent)).run.run { tree := tree } = outcome
  obtain ⟨result, desk⟩ := outcome
  have hfiltered := Sarif.fileFiltered_of_run hrun
  unfold runFilter
  dsimp only
  rw [hrun]
  cases result with
  | error failure => exact ⟨_, hfiltered, rfl⟩
  | ok stats => exact ⟨_, hfiltered, rfl⟩

theorem exists_fileTallied_runSummary (input : String) (report : Option String) :
    ∃ result,
      FileTallied settings.reporting.fallback settings.filtering.indent input tree report result
        (runSummary settings input report tree).tree ∧
      (runSummary settings input report tree).result =
        result.map fun tally => some (.tallied tally report) := by
  generalize hrun : (tallyTask settings input report).run.run { tree := tree } = outcome
  obtain ⟨result, desk⟩ := outcome
  have htallied := fileTallied_of_run hrun
  unfold runSummary
  rw [hrun]
  exact ⟨_, htallied, rfl⟩

end

/-! ## Runs -/

/-- The exit code after a result. -/
def codeAfter {α : Type} : Except Failure α → Nat
  | .ok _ => 0
  | .error failure => exitCode failure

theorem codeAfter_map {α β : Type} (result : Except Failure α) (f : α → β) :
    codeAfter (result.map f) = codeAfter result := by
  cases result <;> rfl

namespace Invocation

variable {environment : Environment} {settings : Settings} {tree : Tree} {invocation : Invocation}

theorem tree_run : (invocation.run environment settings tree).tree =
    (invocation.command.run environment settings invocation.quiet tree).tree := by
  unfold run
  dsimp only
  split <;> rfl

theorem code_run : (invocation.run environment settings tree).code =
    codeAfter (invocation.command.run environment settings invocation.quiet tree).result := by
  unfold run
  dsimp only
  split
  next hresult => rw [hresult, codeAfter]
  next hresult => rw [hresult, codeAfter]
  next hresult => rw [hresult, codeAfter]

theorem output_run {answer : Answer}
    (h : (invocation.command.run environment settings invocation.quiet tree).result =
      .ok (some answer)) :
    (invocation.run environment settings tree).output =
      answer.print invocation.format (paperOf environment) invocation.verbose := by
  unfold run
  dsimp only
  rw [h]

end Invocation

theorem run_of_load {arguments : List String} {environment : Environment} {tree : Tree}
    {invocation : Invocation} {settings : Settings}
    (hread : readArguments arguments = .ok invocation)
    (hload : Settings.load tree environment (Settings.filePath environment) = .ok settings) :
    run arguments environment tree = invocation.run environment settings tree := by
  simp only [run, hread, hload]

/-! ## Failures -/

/-- Only spaces that do not fit into memory have another exit code. -/
theorem exitCode_eq_failureCode_iff {failure : Failure} :
    exitCode failure = failureCode ↔ ∀ indent, failure ≠ .tooWide indent := by
  cases failure <;> simp [exitCode, failureCode, abortCode]

theorem tree_eq_of_written {path : String} {indent : Nat} {document : Json.Value}
    {tree after : Tree} {failure : Failure}
    (h : Written path indent document tree (.error failure) after)
    (hcode : exitCode failure = failureCode) : after = tree := by
  cases h with
  | noOutput => rfl
  | tooWide => exact absurd rfl (exitCode_eq_failureCode_iff.mp hcode indent)

theorem eq_error_of_map_eq_error {α β : Type} {result : Except Failure α} {f : α → β}
    {failure : Failure} (h : result.map f = .error failure) : result = .error failure := by
  cases result with
  | error cause =>
      cases h
      rfl
  | ok value => cases h

theorem tree_eq_of_fileFiltered {input output : String} {filtering : Settings.Filtering}
    {tree after : Tree} {failure : Failure}
    (h : FileFiltered input output filtering tree (.error failure) after)
    (hcode : exitCode failure = failureCode) : after = tree := by
  generalize hresult : (.error failure : Except Failure Sarif.Stats) = result at h
  cases h with
  | badFilter => rfl
  | noReport => rfl
  | passed _ _ hwritten =>
      obtain rfl := eq_error_of_map_eq_error hresult.symm
      exact tree_eq_of_written hwritten hcode

theorem tree_eq_of_fileTallied {fallback input : String} {indent : Nat} {report : Option String}
    {tree after : Tree} {failure : Failure}
    (h : FileTallied fallback indent input tree report (.error failure) after)
    (hcode : exitCode failure = failureCode) : after = tree := by
  generalize hresult : (.error failure : Except Failure Tally) = result at h
  cases h with
  | noReport => rfl
  | counted => cases hresult
  | passed _ hwritten =>
      obtain rfl := eq_error_of_map_eq_error hresult.symm
      exact tree_eq_of_written hwritten hcode

/-- A command that fails with the exit code for failures has changed no file. -/
theorem Command.tree_run_of_error {environment : Environment} {settings : Settings} {quiet : Bool}
    {tree : Tree} {command : Command} {failure : Failure}
    (h : (command.run environment settings quiet tree).result = .error failure)
    (hcode : exitCode failure = failureCode) :
    (command.run environment settings quiet tree).tree = tree := by
  cases command with
  | filter input output patterns indent =>
      obtain ⟨result, hfiltered, hresult⟩ :=
        exists_fileFiltered_runFilter settings tree quiet input output patterns indent
      obtain rfl := eq_error_of_map_eq_error (hresult.symm.trans h)
      exact tree_eq_of_fileFiltered hfiltered hcode
  | summary input report =>
      obtain ⟨result, htallied, hresult⟩ := exists_fileTallied_runSummary settings tree input report
      obtain rfl := eq_error_of_map_eq_error (hresult.symm.trans h)
      exact tree_eq_of_fileTallied htallied hcode
  | patterns filter => rfl
  | configPath => rfl
  | configShow => rfl

/-- How a run ends: with misused arguments, with a failure, by breaking off, or well. Only the
last two change files, and only the last one answers. -/
inductive Ended (environment : Environment) (tree : Tree) : Outcome → Prop where
  | misused : Ended environment tree { code := misuseCode, tree := tree }
  | failed {failure : Failure} (hcode : exitCode failure = failureCode) (log : List String) :
      Ended environment tree
        { code := failureCode
          errors := errorLine (explain (Settings.filePath environment) failure)
          log := log
          tree := tree }
  | brokenOff {failure : Failure} (hcode : exitCode failure ≠ failureCode) (log : List String)
      (after : Tree) :
      Ended environment tree
        { code := exitCode failure
          errors := errorLine (explain (Settings.filePath environment) failure)
          log := log
          tree := after }
  | well (output : String) (log : List String) (after : Tree) :
      Ended environment tree { code := 0, output := output, log := log, tree := after }

theorem Invocation.ended_run (environment : Environment) (settings : Settings) (tree : Tree)
    (invocation : Invocation) :
    Ended environment tree (invocation.run environment settings tree) := by
  unfold Invocation.run
  dsimp only
  split
  next failure hfailure =>
    by_cases hcode : exitCode failure = failureCode
    · rw [hcode, Command.tree_run_of_error hfailure hcode]
      exact .failed hcode _
    · exact .brokenOff hcode _ _
  next => exact .well _ _ _
  next => exact .well _ _ _

theorem ended_run (arguments : List String) (environment : Environment) (tree : Tree) :
    Ended environment tree (run arguments environment tree) := by
  unfold run
  split
  next => exact .misused
  next => exact .well _ _ _
  next invocation _ =>
    dsimp only
    split
    next => exact .failed rfl _
    next settings _ => exact invocation.ended_run environment settings tree

/-- A run with the exit code for failures has changed no file and answered nothing. What it says
is why it failed. Paths are texts here. A document cannot answer with a path that is not Unicode,
though it could have been written to by then. -/
theorem run_of_code_eq_failureCode {arguments : List String} {environment : Environment}
    {tree : Tree} (h : (run arguments environment tree).code = failureCode) :
    (run arguments environment tree).tree = tree ∧
      (run arguments environment tree).output = "" ∧
      ∃ failure, (run arguments environment tree).errors =
        errorLine (explain (Settings.filePath environment) failure) := by
  have hended := ended_run arguments environment tree
  generalize run arguments environment tree = outcome at h hended
  cases hended with
  | misused => cases h
  | failed => exact ⟨rfl, rfl, _, rfl⟩
  | brokenOff hcode => exact absurd h hcode
  | well => cases h

/-- The report is filtered, and then there is no directory to put what is left. -/
example : (run ["filter", "-i", "r", "--output", "d/r", "-p", "-**"] [] Sarif.oneFindingTree).code =
    failureCode := by decide +kernel

end Suppression.Console
