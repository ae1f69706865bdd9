import Suppression.Filter.Basic
import Suppression.Proofs.Fallible
import Suppression.Settings.Load

/-!
# Texts from variables

A text that a variable gives for a setting does not always arrive as it was given. What
looks like a truth value or a number is taken as one and written again, and the settings
get that spelling. All other texts arrive unchanged, whatever a settings file says.
-/

namespace Suppression.Settings

namespace Item

/-! ## Changing one item of a table -/

theorem lookup_changeField_self (key : String) (change : Item → Item)
    (fields : List (String × Item)) :
    (changeField key change fields).lookup key =
      some (change ((fields.lookup key).getD .missing)) := by
  induction fields with
  | nil => simp [changeField]
  | cons field fields ih =>
      obtain ⟨other, item⟩ := field
      by_cases hkey : other = key
      · simp [changeField, hkey]
      · have hne : (key == other) = false := by simpa using Ne.symm hkey
        simp [changeField, List.lookup_cons, hkey, hne, ih]

theorem lookup_changeField_of_ne {key other : String} (h : other ≠ key) (change : Item → Item)
    (fields : List (String × Item)) :
    (changeField key change fields).lookup other = fields.lookup other := by
  induction fields with
  | nil =>
      have hne : (other == key) = false := by simpa using h
      simp [changeField, List.lookup_cons, hne]
  | cons field fields ih =>
      obtain ⟨name, item⟩ := field
      by_cases hname : name = key
      · subst hname
        have hne : (other == name) = false := by simpa using h
        simp [changeField, List.lookup_cons, hne]
      · simp only [changeField, hname, if_false, List.lookup_cons]
        cases other == name <;> simp [ih]

theorem group?_changeKey_self (key : String) (change : Item → Item) (item : Item) :
    (item.changeKey key change).group? key = some (change ((item.group? key).getD .missing)) := by
  cases item with
  | table source fields => exact lookup_changeField_self key change fields
  | _ => simp [changeKey, group?]

theorem group?_changeKey_of_ne {key other : String} (h : other ≠ key) (change : Item → Item)
    (item : Item) : (item.changeKey key change).group? other = item.group? other := by
  have hne : (other == key) = false := by simpa using h
  cases item with
  | table source fields => exact lookup_changeField_of_ne h change fields
  | _ => simp [changeKey, group?, List.lookup_cons, hne]

section Get

variable {α : Type} (expected : Expected) (group : String) (place : Nat)
  (read : String → Item → Except Mismatch α) (default : α)

theorem get_changeKey_self (name : String) (new item : Item) :
    (item.changeKey name fun _ => new).get expected group name place read default =
      read (group ++ "." ++ name) new := by
  cases item with
  | table source fields =>
      have hlookup := lookup_changeField_self name (fun _ => new) fields
      simp only [get, changeKey, setting?, hlookup]
      rfl
  | _ =>
      simp only [get, changeKey, setting?, List.lookup_cons_self]
      rfl

/-- Another setting of the group is left, or none but its value of its own. -/
theorem exists_get_changeKey_of_ne {name other : String} (h : other ≠ name)
    (change : Item → Item) {item : Item} {value : α}
    (hget : item.get expected group other place read default = .ok value) :
    ∃ left, (item.changeKey name change).get expected group other place read default =
      .ok left := by
  have hne : (other == name) = false := by simpa using h
  cases item with
  | table source fields =>
      refine ⟨value, ?_⟩
      rw [← hget]
      simp only [get, changeKey, setting?, lookup_changeField_of_ne h]
  | _ =>
      refine ⟨default, ?_⟩
      simp only [get, changeKey, setting?, List.lookup_cons, hne]
      rfl

end Get

end Item

/-! ## One variable -/

/-- Of the variables that are settings, only this one is there. -/
def Gives (environment : Environment) (name text : String) : Prop :=
  (environment.filter fun entry => (settingKey? entry.1).isSome) = [(name, text)]

theorem ofVariables_of_gives {environment : Environment} {name text key : String}
    (h : Gives environment name text) (hkey : settingKey? name = some key) :
    ofVariables environment = [(key, .scalar (some variablesSource) (guess text))] := by
  -- Variables that are no settings say nothing, so they may be left out.
  have hfilter : ofVariables environment =
      ofVariables (environment.filter fun entry => (settingKey? entry.1).isSome) := by
    unfold ofVariables
    rw [List.filterMap_filter]
    congr 1
    funext entry
    cases hsetting : settingKey? entry.1 <;> simp [hsetting]
  rw [hfilter, h]
  simp [ofVariables, hkey]

/-- How the settings spell a text that a variable gives. -/
inductive Respelled (text : String) : String → Prop where
  | truth (h : lowerCase text = "true" ∨ lowerCase text = "false") :
      Respelled text (lowerCase text)
  | integer {value : Int} (hword : lowerCase text ≠ "true" ∧ lowerCase text ≠ "false")
      (h : integer? text = some value) : Respelled text (toString value)
  | float {value : Float} (hword : lowerCase text ≠ "true" ∧ lowerCase text ≠ "false")
      (hinteger : integer? text = none) (h : Decimal.spelled? text.toList = some value) :
      Respelled text (Decimal.Style.prose.write value)
  | verbatim (hword : lowerCase text ≠ "true" ∧ lowerCase text ≠ "false")
      (hinteger : integer? text = none) (hfloat : Decimal.spelled? text.toList = none) :
      Respelled text text

theorem respelled_guess (text : String) : Respelled text (guess text).toText := by
  unfold guess
  split
  next htrue =>
    have hspelled : Respelled text (lowerCase text) := .truth (.inl htrue)
    rwa [htrue] at hspelled
  next htrue =>
    split
    next hfalse =>
      have hspelled : Respelled text (lowerCase text) := .truth (.inr hfalse)
      rwa [hfalse] at hspelled
    next hfalse =>
      have hword : lowerCase text ≠ "true" ∧ lowerCase text ≠ "false" := ⟨htrue, hfalse⟩
      split
      next hinteger => exact .integer hword hinteger
      next hinteger hfloat => exact .float hword hinteger hfloat
      next hinteger hfloat => exact .verbatim hword hinteger hfloat

/-- A text has one spelling. -/
theorem Respelled.eq_toText_guess {text spelling : String} (h : Respelled text spelling) :
    spelling = (guess text).toText := by
  cases h with
  | truth h =>
      rcases h with h | h
      · simp [guess, h, Scalar.toText]
      · simp [guess, h, Scalar.toText]
  | integer hword h => simp [guess, hword, h, Scalar.toText]
  | float hword hinteger h => simp [guess, hword, hinteger, h, Scalar.toText]
  | verbatim hword hinteger hfloat => simp [guess, hword, hinteger, hfloat, Scalar.toText]

/-- What a file says is a table, to which the variables add theirs. -/
theorem exists_merged_of_load {tree : Files.Tree} {path : String} {before : Settings}
    (h : load tree [] path = .ok before) :
    ∃ merged : Item, merged.toSettings = .ok before ∧
      ∀ environment, load tree environment path =
        ((merged.overlaySource (ofVariables environment)).toSettings).mapError .mismatch := by
  obtain ⟨file, hfile, h⟩ := exists_of_bind_eq_ok h
  refine ⟨(Item.table none []).overlaySource file, mapError_eq_ok_iff.mp h, ?_⟩
  intro environment
  rw [load, hfile]
  rfl

/-- The settings for filtering and those for tallies come from a group each. -/
theorem toSettings_eq_ok_iff {item : Item} {settings : Settings} :
    item.toSettings = .ok settings ↔
      (item.group? "filter").elim (pure {}) Item.toFiltering = .ok settings.filtering ∧
        (item.group? "report").elim (pure {}) Item.toReporting = .ok settings.reporting := by
  constructor
  · intro h
    obtain ⟨filtering, hfiltering, h⟩ := exists_of_bind_eq_ok h
    obtain ⟨reporting, hreporting, h⟩ := exists_of_bind_eq_ok h
    cases h
    exact ⟨hfiltering, hreporting⟩
  · intro h
    rw [Item.toSettings, h.1, h.2]
    rfl

/-- A scalar for a setting of a group replaces what the group said about the setting. -/
theorem overlaySource_singleton {key group name : String}
    (h : KeyPath.ofText key = ⟨group, [.key name]⟩) (item : Item) (source : Option String)
    (value : Scalar) :
    item.overlaySource [(key, .scalar source value)] =
      item.changeKey group fun settings => settings.changeKey name fun _ =>
        .scalar source value := by
  change item.overlayAt key (.scalar source value) = _
  rw [Item.overlayAt, h]
  simp only [Item.changeAt, Item.overlay]

theorem exists_toFiltering_changeKey {value : Scalar} {source : Option String}
    {group : Option Item} {before : Filtering}
    (h : group.elim (pure {}) Item.toFiltering = .ok before) :
    ∃ filtering, ((group.getD .missing).changeKey "patterns" fun _ =>
        .scalar source value).toFiltering = .ok filtering ∧
      filtering.patterns = value.toText := by
  have hpatterns := Item.get_changeKey_self .filtering "filter" 0 Item.toText
    ({} : Filtering).patterns "patterns" (.scalar source value) (group.getD .missing)
  have hindent : ∃ indent, ((group.getD .missing).changeKey "patterns" fun _ =>
      .scalar source value).get .filtering "filter" "indent" 1 Item.toNatural
        ({} : Filtering).indent = .ok indent := by
    cases group with
    | none => exact ⟨4, rfl⟩
    | some item =>
        obtain ⟨_, -, h⟩ := exists_of_bind_eq_ok h
        obtain ⟨indent, hindent, -⟩ := exists_of_bind_eq_ok h
        exact Item.exists_get_changeKey_of_ne _ _ _ _ _ (by decide) _ hindent
  obtain ⟨indent, hindent⟩ := hindent
  refine ⟨⟨value.toText, indent⟩, ?_, rfl⟩
  rw [Item.toFiltering, hpatterns, hindent]
  rfl

theorem toReporting_changeKey (value : Scalar) (source : Option String) (item : Item) :
    (item.changeKey "tool_name" fun _ => .scalar source value).toReporting =
      .ok ⟨some value.toText⟩ := by
  have hname := Item.get_changeKey_self .reporting "report" 0 Item.toText? none
    "tool_name" (.scalar source value) item
  rw [Item.toReporting, hname]
  rfl

/-- A text that a variable gives for a setting arrives in the settings, in the spelling of the
truth value or number that it looks like. Every other text arrives as it was given. -/
theorem load_gives {tree : Files.Tree} {path : String} {before : Settings}
    (hfile : load tree [] path = .ok before) (text : String) (environment : Environment) :
    (Gives environment "SIFT_FILTER__PATTERNS" text →
      ∃ settings, load tree environment path = .ok settings ∧
        Respelled text settings.filtering.patterns) ∧
    (Gives environment "SIFT_REPORT__TOOL_NAME" text →
      ∃ settings, load tree environment path = .ok settings ∧
        ∃ name, settings.reporting.toolName = some name ∧ Respelled text name) := by
  obtain ⟨merged, hmerged, hload⟩ := exists_merged_of_load hfile
  obtain ⟨hfiltering, hreporting⟩ := toSettings_eq_ok_iff.mp hmerged
  constructor
  · intro hgives
    have hkey : settingKey? "SIFT_FILTER__PATTERNS" = some "filter.patterns" := by
      decide +kernel
    have hpath : KeyPath.ofText "filter.patterns" = ⟨"filter", [.key "patterns"]⟩ := rfl
    obtain ⟨filtering, hpatterns, htext⟩ := exists_toFiltering_changeKey hfiltering
    refine ⟨⟨filtering, before.reporting⟩, ?_, htext ▸ respelled_guess text⟩
    rw [hload, ofVariables_of_gives hgives hkey, overlaySource_singleton hpath]
    apply mapError_eq_ok_iff.mpr
    refine toSettings_eq_ok_iff.mpr ⟨?_, ?_⟩
    · rw [Item.group?_changeKey_self]
      exact hpatterns
    · rw [Item.group?_changeKey_of_ne (by decide)]
      exact hreporting
  · intro hgives
    have hkey : settingKey? "SIFT_REPORT__TOOL_NAME" = some "report.tool_name" := by
      decide +kernel
    have hpath : KeyPath.ofText "report.tool_name" = ⟨"report", [.key "tool_name"]⟩ := rfl
    refine ⟨⟨before.filtering, ⟨some (guess text).toText⟩⟩, ?_, _, rfl, respelled_guess text⟩
    rw [hload, ofVariables_of_gives hgives hkey, overlaySource_singleton hpath]
    apply mapError_eq_ok_iff.mpr
    refine toSettings_eq_ok_iff.mpr ⟨?_, ?_⟩
    · rw [Item.group?_changeKey_of_ne (by decide)]
      exact hfiltering
    · rw [Item.group?_changeKey_self]
      exact toReporting_changeKey ..

/-- A filter for the file `007` arrives as one for the file `7`. -/
theorem load_gives_leading_zeros :
    load .empty [] "config.toml" = .ok {} ∧
      Gives [("SIFT_FILTER__PATTERNS", "007")] "SIFT_FILTER__PATTERNS" "007" ∧
      ∃ settings, load .empty [("SIFT_FILTER__PATTERNS", "007")] "config.toml" = .ok settings ∧
        Respelled "007" settings.filtering.patterns ∧ settings.filtering.patterns = "7" := by
  have hfile : load .empty [] "config.toml" = .ok {} := by rfl
  have hgives : Gives [("SIFT_FILTER__PATTERNS", "007")] "SIFT_FILTER__PATTERNS" "007" := by
    unfold Gives
    decide +kernel
  have hguess : (guess "007").toText = "7" := by decide +kernel
  obtain ⟨settings, hload, hspelled⟩ := (load_gives hfile "007" _).1 hgives
  exact ⟨hfile, hgives, settings, hload, hspelled, hspelled.eq_toText_guess.trans hguess⟩

/-- Texts do not all arrive as they were given: what excludes the file `0` arrives as what
includes it. -/
theorem load_gives_minus_zero :
    load .empty [] "config.toml" = .ok {} ∧
      Gives [("SIFT_FILTER__PATTERNS", "-0")] "SIFT_FILTER__PATTERNS" "-0" ∧
      load .empty [("SIFT_FILTER__PATTERNS", "-0")] "config.toml" =
        .ok { filtering := { patterns := "0" } } ∧
      (Filter.compile "-0").map (List.map Pattern.keeps) = .ok [false] ∧
      (Filter.compile "0").map (List.map Pattern.keeps) = .ok [true] := by
  refine ⟨by rfl, ?_, ?_, by rfl, by rfl⟩
  · unfold Gives
    decide +kernel
  · rw [← toOption_eq_some_iff]
    decide +kernel

end Suppression.Settings
