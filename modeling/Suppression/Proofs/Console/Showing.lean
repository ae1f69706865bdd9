import Suppression.Proofs.Console.Commands
import Suppression.Proofs.Settings.Reload

/-!
# Shown settings

The settings are shown as a settings file. Stored as such, they are loaded again, unless the width
is greater than any integer of the format. Only a variable or a text can give such a width.
-/

namespace Suppression.Console

open Files (Tree)
open Settings (settingsEnvironment settingsTree)

/-- Settings are shown as they are written. -/
theorem Invocation.run_configShow {environment : Environment} {settings : Settings} {tree : Tree}
    {invocation : Invocation} (hcommand : invocation.command = .configShow)
    (hformat : invocation.format = .text) :
    (invocation.run environment settings tree).code = 0 ∧
      (invocation.run environment settings tree).output = settings.written ∧
      (invocation.run environment settings tree).tree = tree := by
  have hresult : (invocation.command.run environment settings invocation.quiet tree).result =
      .ok (some (.effective settings)) := by
    rw [hcommand, Command.run]
  refine ⟨?_, ?_, ?_⟩
  · rw [code_run, hresult, codeAfter]
  · rw [output_run hresult, hformat]
    rfl
  · rw [tree_run, hcommand, Command.run]

/-- Settings that were loaded are shown, and no file is changed. A settings file that holds what
was shown gives the same settings, if no variable gives any and the width has a place among the
integers of the format. A greater width is refused. -/
theorem run_configShow_reload {arguments : List String} {environment : Environment} {tree : Tree}
    {invocation : Invocation} {settings : Settings}
    (hread : readArguments arguments = .ok invocation)
    (hcommand : invocation.command = .configShow) (hformat : invocation.format = .text)
    (hload : Settings.load tree environment (Settings.filePath environment) = .ok settings) :
    (run arguments environment tree).code = 0 ∧ (run arguments environment tree).tree = tree ∧
      ∀ later : Tree, ∀ others : Environment, ∀ path found : String,
        (∀ entry ∈ others, Settings.settingKey? entry.1 = none) →
        Settings.locate later path = some found →
        later.content found = .ok (Text.encode (run arguments environment tree).output) →
        Settings.load later others path =
          if settings.filtering.indent < Decimal.halfSize then .ok settings
          else .error (.badNumber .tooGreat (Files.shortPath found)) := by
  obtain ⟨hcode, houtput, htree⟩ := @Invocation.run_configShow environment settings tree _
    hcommand hformat
  rw [run_of_load hread hload]
  refine ⟨hcode, htree, ?_⟩
  intro later others path found hothers hfound hcontent
  rw [houtput] at hcontent
  exact Settings.load_written settings hothers hfound hcontent

/-- A filter with all kinds of quotes in two lines, from a variable. -/
def quotedEnvironment : Environment :=
  [("SIFT_FILTER__PATTERNS", "-a:\\\"\"\"\n-b:'''\t"), ("SIFT_REPORT__TOOL_NAME", "0x7f")]

/-- The settings that these variables give. -/
def quotedSettings : Settings where
  filtering := { patterns := "-a:\\\"\"\"\n-b:'''\t" }
  reporting := { toolName := some "0x7f" }

/-- Quotes and line feeds are loaded again. -/
theorem run_configShow_reload_quotes :
    readArguments ["config", "show"] = .ok { command := .configShow } ∧
      Settings.load .empty quotedEnvironment (Settings.filePath quotedEnvironment) =
        .ok quotedSettings ∧
      (run ["config", "show"] quotedEnvironment .empty).code = 0 ∧
      Settings.load (settingsTree (run ["config", "show"] quotedEnvironment .empty).output)
        settingsEnvironment (Settings.filePath settingsEnvironment) = .ok quotedSettings := by
  have hread : readArguments ["config", "show"] = .ok { command := .configShow } := rfl
  have hload : Settings.load .empty quotedEnvironment (Settings.filePath quotedEnvironment) =
      .ok quotedSettings := by
    rw [← toOption_eq_some_iff]
    decide +kernel
  obtain ⟨hcode, -, hreload⟩ := run_configShow_reload hread rfl rfl hload
  generalize (run ["config", "show"] quotedEnvironment .empty).output = output at hreload ⊢
  have hlater := hreload (settingsTree output) settingsEnvironment
    (Settings.filePath settingsEnvironment) "c/sift/config.toml" (by decide +kernel) rfl rfl
  rw [if_pos (by decide)] at hlater
  exact ⟨hread, hload, hcode, hlater⟩

/-- A width that is one greater than any integer of the format, as a text. -/
def wideText : String := "[filter]\nindent = \"9223372036854775808\"\n"

/-- The settings that this text gives. -/
def wideSettings : Settings where
  filtering := { indent := 9223372036854775808 }

theorem load_wideText : Settings.load (settingsTree wideText) settingsEnvironment
    (Settings.filePath settingsEnvironment) = .ok wideSettings := by
  have htext : wideText.toList = '[' :: wideText.toList.tail := rfl
  have hfile : Settings.ofFile (settingsTree wideText) (Settings.filePath settingsEnvironment) =
      Settings.ofText (Files.shortPath "c/sift/config.toml") wideText := by
    have hlocate : Settings.locate (settingsTree wideText)
        (Settings.filePath settingsEnvironment) = some "c/sift/config.toml" := rfl
    have hcontent : (settingsTree wideText).content "c/sift/config.toml" =
        .ok (Text.encode wideText) := rfl
    simp only [Settings.ofFile, hlocate, hcontent, Settings.fileText_encode htext (by decide)]
  rw [Settings.load, hfile, ← toOption_eq_some_iff]
  decide +kernel

/-- Not all settings that are shown can be loaded again. -/
theorem run_configShow_reload_too_wide :
    Settings.load (settingsTree wideText) settingsEnvironment
        (Settings.filePath settingsEnvironment) = .ok wideSettings ∧
      (run ["config", "show"] settingsEnvironment (settingsTree wideText)).code = 0 ∧
      Settings.load
        (settingsTree (run ["config", "show"] settingsEnvironment (settingsTree wideText)).output)
        settingsEnvironment (Settings.filePath settingsEnvironment) =
          .error (.badNumber .tooGreat "c/sift/config.toml") := by
  have hload := load_wideText
  have hread : readArguments ["config", "show"] = .ok { command := .configShow } := rfl
  obtain ⟨hcode, houtput, -⟩ := @Invocation.run_configShow settingsEnvironment wideSettings
    (settingsTree wideText) { command := .configShow } rfl rfl
  have hrun := run_of_load hread hload
  rw [← hrun] at hcode houtput
  have hlater := @Settings.load_written wideSettings (settingsTree wideSettings.written)
    settingsEnvironment (Settings.filePath settingsEnvironment) "c/sift/config.toml"
    (by decide +kernel) rfl rfl
  rw [if_neg (by decide)] at hlater
  rw [houtput]
  exact ⟨hload, hcode, hlater⟩

end Suppression.Console
