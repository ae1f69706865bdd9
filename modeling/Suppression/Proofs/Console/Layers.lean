import Suppression.Proofs.Console.Arguments
import Suppression.Proofs.Console.Commands
import Suppression.Proofs.Settings.Reload

/-!
# Commands with settings from several layers

What the command line gives is a layer on top of the variables and the settings file. A command
takes every setting from the uppermost layer that gives it.
-/

namespace Suppression.Console

open Files (Tree)
open Sarif (FileFiltered)
open Settings (FileGives VariablesGive)

namespace Invocation

variable {environment : Environment} {settings : Settings} {tree : Tree} {invocation : Invocation}

/-- A filter command ends as filtering ends, and answers what was counted. -/
theorem exists_fileFiltered_run {input output : String} {patterns : Option String}
    {indent : Option Nat} (h : invocation.command = .filter input output patterns indent) :
    ∃ result,
      FileFiltered input output (overridden settings.filtering patterns indent) tree result
        (invocation.run environment settings tree).tree ∧
      (invocation.run environment settings tree).code = codeAfter result ∧
      (invocation.quiet = false → ∀ stats, result = .ok stats →
        (invocation.run environment settings tree).output =
          (Answer.filtered input output (overridden settings.filtering patterns indent).patterns
            stats).print invocation.format (paperOf environment) invocation.verbose) := by
  obtain ⟨result, hfiltered, hresult⟩ :=
    exists_fileFiltered_runFilter settings tree invocation.quiet input output patterns indent
  have hrun : runFilter settings invocation.quiet input output patterns indent tree =
      invocation.command.run environment settings invocation.quiet tree := by
    rw [h, Command.run]
  rw [hrun] at hfiltered hresult
  refine ⟨result, tree_run ▸ hfiltered, ?_, ?_⟩
  · rw [code_run, hresult, codeAfter_map]
  · rintro hquiet stats rfl
    apply output_run
    rw [hresult, hquiet]
    rfl

/-- A summary command ends as counting ends, and answers the tally. -/
theorem exists_fileTallied_run {input : String} {report : Option String}
    (h : invocation.command = .summary input report) :
    ∃ result,
      FileTallied settings.reporting.fallback settings.filtering.indent input tree report result
        (invocation.run environment settings tree).tree ∧
      (invocation.run environment settings tree).code = codeAfter result ∧
      (∀ tally, result = .ok tally →
        (invocation.run environment settings tree).output =
          (Answer.tallied tally report).print invocation.format (paperOf environment)
            invocation.verbose) := by
  obtain ⟨result, htallied, hresult⟩ := exists_fileTallied_runSummary settings tree input report
  have hrun : runSummary settings input report tree =
      invocation.command.run environment settings invocation.quiet tree := by
    rw [h, Command.run]
  rw [hrun] at htallied hresult
  refine ⟨result, tree_run ▸ htallied, ?_, ?_⟩
  · rw [code_run, hresult, codeAfter_map]
  · rintro tally rfl
    apply output_run
    rw [hresult]
    rfl

end Invocation

/-- Every setting is taken from the command line if it gives it, else from the variables, else
from the settings file, else it has a value of its own. The options of a filter command may be
any of those for settings, and an empty filter is given as well as any other. -/
theorem run_of_layers {environment : Environment} {tree : Tree} {file ambient : Settings.Given}
    (hfile : FileGives tree (Settings.filePath environment) file)
    (hvariables : VariablesGive environment ambient) :
    (∀ arguments invocation input output patterns indent,
      readArguments arguments = .ok invocation →
      invocation.command = .filter input output patterns indent →
      ∃ result,
        FileFiltered input output
          ⟨((patterns.or ambient.patterns).or file.patterns).getD "",
            ((indent.or ambient.indent).or file.indent).getD 4⟩
          tree result (run arguments environment tree).tree ∧
        (run arguments environment tree).code = codeAfter result ∧
        (invocation.quiet = false → ∀ stats, result = .ok stats →
          (run arguments environment tree).output =
            (Answer.filtered input output
              (((patterns.or ambient.patterns).or file.patterns).getD "") stats).print
              invocation.format (paperOf environment) invocation.verbose)) ∧
    (∀ arguments invocation input report,
      readArguments arguments = .ok invocation → invocation.command = .summary input report →
      ∃ result,
        FileTallied ((ambient.toolName.or file.toolName).getD "unknown")
          ((ambient.indent.or file.indent).getD 4)
          input tree report result (run arguments environment tree).tree ∧
        (run arguments environment tree).code = codeAfter result ∧
        (∀ tally, result = .ok tally →
          (run arguments environment tree).output =
            (Answer.tallied tally report).print invocation.format (paperOf environment)
              invocation.verbose)) ∧
    (∀ input output patterns indent, IsPlain input ∧ input ≠ "" → IsPlain output ∧ output ≠ "" →
      (∀ width, indent = some width → width < Decimal.wordSize) →
      readArguments (filterArguments input output patterns indent) =
        .ok { command := .filter input output patterns indent }) := by
  have hload := Settings.load_of_gives hfile hvariables
  refine ⟨?_, ?_, ?_⟩
  · intro arguments invocation input output patterns indent hread hcommand
    rw [run_of_load hread hload]
    have hsettings : overridden (ambient.upon file).settings.filtering patterns indent =
        ⟨((patterns.or ambient.patterns).or file.patterns).getD "",
          ((indent.or ambient.indent).or file.indent).getD 4⟩ := by
      cases patterns <;> cases indent <;> rfl
    rw [← hsettings]
    have hpatterns := congrArg Settings.Filtering.patterns hsettings
    dsimp only at hpatterns
    rw [← hpatterns]
    exact Invocation.exists_fileFiltered_run hcommand
  · intro arguments invocation input report hread hcommand
    rw [run_of_load hread hload]
    exact @Invocation.exists_fileTallied_run environment (ambient.upon file).settings tree
      invocation input report hcommand
  · intro input output patterns indent hinput houtput hindent
    exact readArguments_filterArguments hinput houtput hindent

/-- What the settings file gives in an example. -/
def lowerSettings : Settings where
  filtering := { patterns := "-**", indent := 2 }

/-- A report with one finding, and the settings file. -/
def layeredTree : Tree :=
  ⟨(["r"], .file (Text.encode Sarif.oneFinding.compact)) ::
    (Settings.settingsTree lowerSettings.written).nodes⟩

/-- Variables that give another width, and a name for the tool. -/
def layeredEnvironment : Environment :=
  [("SIFT_FILTER__INDENT", "3"), ("SIFT_REPORT__TOOL_NAME", "x"), ("XDG_CONFIG_HOME", "c")]

theorem variablesGive_layeredEnvironment :
    VariablesGive layeredEnvironment { indent := some 3, toolName := some "x" } := by
  have hspelled : Decimal.spelled? "x".toList = none := rfl
  refine ⟨by decide +kernel, ?_, ?_, ?_⟩
  · refine ⟨?_, by rintro _ ⟨⟩⟩
    intro text htext
    simp [layeredEnvironment] at htext
  · refine ⟨?_, fun _ _ => ⟨"3", by simp [layeredEnvironment]⟩⟩
    intro text htext
    obtain rfl : text = "3" := by simpa [layeredEnvironment] using htext
    exact ⟨_, rfl, .integer (by decide +kernel)⟩
  · refine ⟨?_, fun _ _ => ⟨"x", by simp [layeredEnvironment]⟩⟩
    intro text htext
    obtain rfl : text = "x" := by simpa [layeredEnvironment] using htext
    exact ⟨_, rfl, .text (by decide +kernel) (by decide +kernel) (by decide +kernel) hspelled⟩

/-- The command line gives an empty filter, a variable the width, and the settings file neither. -/
theorem run_of_layers_each_one :
    FileGives layeredTree (Settings.filePath layeredEnvironment) lowerSettings.given ∧
      VariablesGive layeredEnvironment { indent := some 3, toolName := some "x" } ∧
      (∃ result, FileFiltered "r" "s" { patterns := "", indent := 3 } layeredTree result
        (run (filterArguments "r" "s" (some "") none) layeredEnvironment layeredTree).tree) ∧
      ∃ result, FileTallied "x" 3 "r" layeredTree (some "t") result
        (run ["summary", "r", "--report", "t"] layeredEnvironment layeredTree).tree := by
  have hfile : FileGives layeredTree (Settings.filePath layeredEnvironment) lowerSettings.given :=
    @Settings.fileGives_written lowerSettings layeredTree _ "c/sift/config.toml" (by decide) rfl rfl
  have hvariables := variablesGive_layeredEnvironment
  obtain ⟨hfilter, hsummary, harguments⟩ := run_of_layers hfile hvariables
  have hread := harguments "r" "s" (some "") none (by unfold IsPlain; decide)
    (by unfold IsPlain; decide) (by rintro _ ⟨⟩)
  have hreadSummary : readArguments ["summary", "r", "--report", "t"] =
      .ok { command := .summary "r" (some "t") } := by
    rfl
  obtain ⟨result, hfiltered, -, -⟩ := hfilter _ _ _ _ _ _ hread rfl
  obtain ⟨tallied, htallied, -, -⟩ := hsummary _ _ _ _ hreadSummary rfl
  exact ⟨hfile, hvariables, ⟨result, hfiltered⟩, tallied, htallied⟩

end Suppression.Console
