import Suppression.Proofs.Settings.Variables
import Suppression.Proofs.Text.Digits
import Mathlib.Data.List.TakeWhile

/-!
# Settings from several layers

A settings file and the variables give some of the settings each. Every setting is taken from
the variables if they give it, else from the file, else it has a value of its own, and what is
given of one setting is of no concern to the others. Both layers are laid over the settings in
small steps, each of which gives one setting or leaves it alone.
-/

namespace Suppression.Settings

/-! ## Layers of steps -/

/-- Whatever was known before, a step leaves what it says, or else what was known. -/
def Lays {State Entry α : Type} (knows : Option α → State → Prop) (step : State → Entry → State)
    (said : Option α) (entry : Entry) : Prop :=
  ∀ before state, knows before state → knows (said.or before) (step state entry)

section Steps

variable {State Entry α : Type} {knows : Option α → State → Prop} {step : State → Entry → State}
  {said : Option α} {entries : List Entry}

/-- Of steps that say one thing or nothing, either some have said it or none has. -/
theorem exists_knows_foldl
    (hsteps : ∀ entry ∈ entries, Lays knows step none entry ∨ Lays knows step said entry)
    {before : Option α} {state : State} (hstate : knows before state) :
    ∃ heard, (heard = none ∨ heard = said) ∧
      knows (heard.or before) (entries.foldl step state) := by
  induction entries generalizing before state with
  | nil => exact ⟨none, .inl rfl, hstate⟩
  | cons entry entries ih =>
      obtain ⟨hentry, hentries⟩ := List.forall_mem_cons.mp hsteps
      rcases hentry with hnothing | hsaid
      · exact ih hentries (hnothing before state hstate)
      · obtain ⟨heard, hheard, hlast⟩ := ih hentries (hsaid before state hstate)
        refine ⟨said, .inr rfl, ?_⟩
        rcases hheard with rfl | rfl
        · exact hlast
        · rwa [← Option.or_assoc, Option.or_self] at hlast

/-- Steps that say one thing or nothing leave that thing, if one of them says it. -/
theorem Lays.foldl
    (hsteps : ∀ entry ∈ entries, Lays knows step none entry ∨ Lays knows step said entry)
    (hsaid : said = none ∨ ∃ entry ∈ entries, Lays knows step said entry) :
    Lays knows (fun state entries => entries.foldl step state) said entries := by
  intro before state hstate
  rcases hsaid with rfl | ⟨entry, hentry, hlays⟩
  · obtain ⟨_, rfl | rfl, hlast⟩ := exists_knows_foldl hsteps hstate
    · exact hlast
    · exact hlast
  · obtain ⟨front, back, rfl⟩ := List.append_of_mem hentry
    obtain ⟨hfront, hback⟩ := List.forall_mem_append.mp hsteps
    obtain ⟨first, hfirst, hknown⟩ := exists_knows_foldl hfront hstate
    obtain ⟨last, hlast, hknown⟩ := exists_knows_foldl (List.forall_mem_cons.mp hback).2
      (hlays _ _ hknown)
    dsimp only
    rw [List.foldl_append, List.foldl_cons]
    -- Whatever was heard before or after the step that says it, it is the same thing.
    have hsame : last.or (said.or (first.or before)) = said.or before := by
      cases said <;> rcases hfirst with rfl | rfl <;> rcases hlast with rfl | rfl <;> simp
    rwa [hsame] at hknown

end Steps

namespace Item

/-! ## What stands at a setting -/

/-- The item at a setting of a group. -/
def at? (group name : String) (item : Item) : Option Item :=
  (item.group? group).bind (group? name)

/-- A scalar stands here, or nothing. -/
def Stands : Option Scalar → Option Item → Prop
  | none, item => item = none
  | some value, item => ∃ source, item = some (.scalar source value)

/-- The item is a table. -/
def IsTable : Item → Prop
  | .table _ _ => True
  | _ => False

/-- The group is a table if it is there, and this is what stands at its setting. -/
def Shows (group name : String) (value : Option Scalar) (item : Item) : Prop :=
  (∀ found, item.group? group = some found → found.IsTable) ∧ Stands value (item.at? group name)

theorem isTable_changeKey (key : String) (change : Item → Item) (item : Item) :
    (item.changeKey key change).IsTable := by
  cases item <;> trivial

theorem overlayFields_eq_foldl (item : Item) (fields : List (String × Item)) :
    item.overlayFields fields = fields.foldl
      (fun item field => item.changeKey field.1 fun lower => lower.overlay field.2) item := by
  induction fields generalizing item with
  | nil => rfl
  | cons field fields ih => rw [overlayFields, ih, List.foldl_cons]

theorem isTable_overlayFields {item : Item} (h : item.IsTable) (fields : List (String × Item)) :
    (item.overlayFields fields).IsTable := by
  induction fields generalizing item with
  | nil => exact h
  | cons field fields ih =>
      rw [overlayFields]
      exact ih (isTable_changeKey ..)

/-- One field of a table, laid over a setting of that name, or beside it. -/
theorem lays_changeKey {name key : String} {upper : Item} {said : Option Scalar}
    (h : if key = name then ∃ source value, upper = .scalar source value ∧ said = some value
      else said = none) :
    Lays (fun value item => Stands value (group? name item))
      (fun item (field : String × Item) =>
        item.changeKey field.1 fun lower => lower.overlay field.2) said (key, upper) := by
  intro before item hbefore
  dsimp only
  split at h
  next hkey =>
    obtain ⟨source, value, rfl, rfl⟩ := h
    subst hkey
    rw [group?_changeKey_self]
    exact ⟨source, by rw [overlay]; simp⟩
  next hkey =>
    subst h
    rw [group?_changeKey_of_ne (Ne.symm hkey)]
    exact hbefore

/-- A table is laid over a group field by field, also if the group is not there yet. -/
theorem exists_overlay_table {group : Option Item}
    (hgroup : ∀ found, group = some found → found.IsTable) (source : Option String)
    (fields : List (String × Item)) :
    ∃ lower : Item, lower.IsTable ∧ (∀ name, lower.group? name = group.bind (group? name)) ∧
      (group.getD .missing).overlay (.table source fields) = lower.overlayFields fields := by
  cases group with
  | none => exact ⟨.table none [], trivial, fun _ => rfl, by rw [Option.getD_none, overlay]⟩
  | some found =>
      have hfound := hgroup found rfl
      cases found with
      | table origin below =>
          exact ⟨.table origin below, trivial, fun _ => rfl, by simp [overlay]⟩
      | _ => exact absurd hfound id

/-- A table laid over a group says of a setting what its fields say. -/
theorem lays_overlayAt_table {group name : String} {said : Option Scalar}
    {fields : List (String × Item)} (hpath : KeyPath.ofText group = ⟨group, []⟩)
    (source : Option String)
    (hfields : Lays (fun value item => Stands value (group? name item)) overlayFields said fields) :
    Lays (Shows group name) (fun item (entry : String × Item) => item.overlayAt entry.1 entry.2)
      said (group, .table source fields) := by
  rintro before item ⟨htable, hbefore⟩
  obtain ⟨lower, hlower, hsame, hoverlay⟩ := exists_overlay_table htable source fields
  unfold at? at hbefore
  rw [← hsame name] at hbefore
  dsimp only
  rw [overlayAt, hpath]
  simp only [changeAt]
  unfold Shows at?
  rw [group?_changeKey_self, hoverlay]
  refine ⟨?_, hfields before lower hbefore⟩
  rintro _ ⟨⟩
  exact isTable_overlayFields hlower fields

theorem lays_overlayAt_of_ne {group name key : String} {root : String} {steps : List Step}
    (hpath : KeyPath.ofText key = ⟨root, steps⟩) (hroot : group ≠ root) (upper : Item) :
    Lays (Shows group name) (fun item (entry : String × Item) => item.overlayAt entry.1 entry.2)
      none (key, upper) := by
  rintro before item hbefore
  dsimp only
  rw [overlayAt, hpath]
  simp only [changeAt]
  unfold Shows at?
  rw [group?_changeKey_of_ne hroot]
  exact hbefore

/-- A scalar laid over a setting replaces it, and leaves the other settings of the group. -/
theorem lays_overlayAt_scalar {group setting key : String}
    (hpath : KeyPath.ofText key = ⟨group, [.key setting]⟩) (name : String)
    (source : Option String) (value : Scalar) :
    Lays (Shows group name) (fun item (entry : String × Item) => item.overlayAt entry.1 entry.2)
      (if setting = name then some value else none) (key, .scalar source value) := by
  rintro before item ⟨-, hbefore⟩
  dsimp only
  rw [overlayAt, hpath]
  simp only [changeAt, overlay]
  unfold Shows at?
  rw [group?_changeKey_self]
  refine ⟨?_, ?_⟩
  · rintro _ ⟨⟩
    exact isTable_changeKey ..
  · rw [Option.bind_some]
    by_cases hsetting : setting = name
    · subst hsetting
      rw [group?_changeKey_self, if_pos rfl]
      exact ⟨source, rfl⟩
    · rw [group?_changeKey_of_ne (Ne.symm hsetting), if_neg hsetting]
      unfold at? at hbefore
      cases hgroup : item.group? group with
      | none => rwa [hgroup] at hbefore
      | some found => rwa [hgroup] at hbefore

end Item

/-! ## What a settings file says -/

/-- A value of a settings file spells a text or an integer. -/
inductive Spells : Toml.Value → Scalar → Prop where
  | text (text : String) : Spells (.scalar (.string text)) (.text text)
  | integer {base : Nat} {digits : List Char} {value : Int}
      (hvalue : Toml.Numeral.toInteger base digits = .ok value) :
      Spells (.scalar (.number (.integer base digits))) (.integer value)

/-- What the fields of a settings file say about a setting. -/
def Tells (fields : List (String × Toml.Value)) (group name : String) (said : Option Scalar) :
    Prop :=
  (∀ inner value, (group, .table inner) ∈ fields → (name, value) ∈ inner →
    ∃ scalar, said = some scalar ∧ Spells value scalar) ∧
  (∀ scalar, said = some scalar → ∃ inner value, (group, .table inner) ∈ fields ∧
    (name, value) ∈ inner)

theorem ofValue_of_spells {value : Toml.Value} {scalar : Scalar} (h : Spells value scalar)
    (source : String) : Item.ofValue source value = .ok (.scalar (some source) scalar) := by
  cases h with
  | text text => rfl
  | integer hvalue =>
      rw [Item.ofValue, Item.ofScalar, hvalue]
      rfl

theorem mem_of_ofFields {source : String} {fields : List (String × Toml.Value)}
    {items : List (String × Item)} (h : Item.ofFields source fields = .ok items) :
    (∀ key item, (key, item) ∈ items →
      ∃ value, (key, value) ∈ fields ∧ Item.ofValue source value = .ok item) ∧
    (∀ key value, (key, value) ∈ fields →
      ∃ item, (key, item) ∈ items ∧ Item.ofValue source value = .ok item) := by
  induction fields generalizing items with
  | nil =>
      rw [Item.ofFields] at h
      cases h
      simp
  | cons field fields ih =>
      obtain ⟨name, content⟩ := field
      rw [Item.ofFields] at h
      obtain ⟨first, hfirst, h⟩ := exists_of_bind_eq_ok h
      obtain ⟨rest, hrest, h⟩ := exists_of_bind_eq_ok h
      cases h
      obtain ⟨hitems, hfields⟩ := ih hrest
      constructor
      · intro key item hmem
        rcases List.mem_cons.mp hmem with heq | hmem
        · cases heq
          exact ⟨content, List.mem_cons_self, hfirst⟩
        · obtain ⟨value, hvalue, hof⟩ := hitems key item hmem
          exact ⟨value, List.mem_cons_of_mem _ hvalue, hof⟩
      · intro key value hmem
        rcases List.mem_cons.mp hmem with heq | hmem
        · cases heq
          exact ⟨first, List.mem_cons_self, hfirst⟩
        · obtain ⟨item, hitem, hof⟩ := hfields key value hmem
          exact ⟨item, List.mem_cons_of_mem _ hitem, hof⟩

section File

variable {source group name : String} {said : Option Scalar}

/-- The fields of a group say of a setting what they spell for it. -/
theorem lays_overlayFields {inner : List (String × Toml.Value)} {items : List (String × Item)}
    (hitems : Item.ofFields source inner = .ok items)
    (hspells : ∀ value, (name, value) ∈ inner → ∃ scalar, said = some scalar ∧ Spells value scalar)
    (hsaid : said = none ∨ ∃ value, (name, value) ∈ inner) :
    Lays (fun value item => Item.Stands value (Item.group? name item)) Item.overlayFields said
      items := by
  obtain ⟨hvalues, hfields⟩ := mem_of_ofFields hitems
  have hscalar : ∀ upper, (name, upper) ∈ items → ∃ source value,
      upper = .scalar source value ∧ said = some value := by
    intro upper hupper
    obtain ⟨value, hvalue, hof⟩ := hvalues name upper hupper
    obtain ⟨scalar, rfl, hspelled⟩ := hspells value hvalue
    rw [ofValue_of_spells hspelled] at hof
    cases hof
    exact ⟨_, _, rfl, rfl⟩
  have hfold : Item.overlayFields = fun item fields => fields.foldl
      (fun item field => item.changeKey field.1 fun lower => lower.overlay field.2) item := by
    funext item fields
    exact Item.overlayFields_eq_foldl item fields
  rw [hfold]
  refine Lays.foldl ?_ ?_
  · rintro ⟨key, upper⟩ hentry
    by_cases hkey : key = name
    · subst hkey
      exact .inr (Item.lays_changeKey (by simpa using hscalar upper hentry))
    · exact .inl (Item.lays_changeKey (by simp [hkey]))
  · rcases hsaid with hnone | ⟨value, hvalue⟩
    · exact .inl hnone
    · obtain ⟨upper, hupper, -⟩ := hfields name value hvalue
      exact .inr ⟨_, hupper, Item.lays_changeKey (by simpa using hscalar upper hupper)⟩

/-- A settings file says of a setting what the table of its group says. -/
theorem lays_overlaySource_file {fields : List (String × Toml.Value)}
    {items : List (String × Item)} (hitems : Item.ofFields source fields = .ok items)
    (hpaths : ∀ field ∈ fields, KeyPath.ofText field.1 = ⟨field.1, []⟩)
    (htables : ∀ value, (group, value) ∈ fields → ∃ inner, value = .table inner)
    (htells : Tells fields group name said) :
    Lays (Item.Shows group name) Item.overlaySource said items := by
  obtain ⟨hvalues, hfields⟩ := mem_of_ofFields hitems
  -- The item of the group is a table of items that are read from the group's own fields.
  have hgroup : ∀ value upper, (group, value) ∈ fields → Item.ofValue source value = .ok upper →
      ∃ inner below, value = .table inner ∧ upper = .table (some source) below ∧
        Item.ofFields source inner = .ok below := by
    intro value upper hmem hof
    obtain ⟨inner, rfl⟩ := htables value hmem
    rw [Item.ofValue] at hof
    obtain ⟨below, hbelow, hof⟩ := exists_of_bind_eq_ok hof
    cases hof
    exact ⟨inner, below, rfl, rfl, hbelow⟩
  have hlays : ∀ inner below, (group, .table inner) ∈ fields →
      Item.ofFields source inner = .ok below → ∀ heard,
      (∀ value, (name, value) ∈ inner → heard = said) →
      (heard = none ∨ ∃ value, (name, value) ∈ inner) →
      Lays (Item.Shows group name)
        (fun item (entry : String × Item) => item.overlayAt entry.1 entry.2) heard
        (group, .table (some source) below) := by
    intro inner below hmem hbelow heard hheard hsome
    refine Item.lays_overlayAt_table (hpaths _ hmem) _ (lays_overlayFields hbelow ?_ hsome)
    intro value hvalue
    rw [hheard value hvalue]
    exact htells.1 inner value hmem hvalue
  refine Lays.foldl ?_ ?_
  · rintro ⟨key, upper⟩ hentry
    obtain ⟨value, hvalue, hof⟩ := hvalues key upper hentry
    by_cases hkey : group = key
    · subst hkey
      obtain ⟨inner, below, rfl, rfl, hbelow⟩ := hgroup value upper hvalue hof
      -- A table may stand more than once, and not each of them has to give the setting.
      by_cases hsome : ∃ value, (name, value) ∈ inner
      · exact .inr (hlays inner below hvalue hbelow said (fun _ _ => rfl) (.inr hsome))
      · refine .inl (hlays inner below hvalue hbelow none ?_ (.inl rfl))
        exact fun value hmem => absurd ⟨value, hmem⟩ hsome
    · exact .inl (Item.lays_overlayAt_of_ne (hpaths _ hvalue) hkey upper)
  · cases hheard : said with
    | none => exact .inl rfl
    | some scalar =>
        obtain ⟨inner, value, hmem, hvalue⟩ := htells.2 scalar hheard
        obtain ⟨upper, hupper, hof⟩ := hfields group (.table inner) hmem
        obtain ⟨_, below, heq, rfl, hbelow⟩ := hgroup _ upper hmem hof
        cases heq
        rw [← hheard]
        exact .inr ⟨_, hupper, hlays inner below hmem hbelow said (fun _ _ => rfl)
          (.inr ⟨value, hvalue⟩)⟩

end File

/-! ## What the variables say -/

/-- A text is taken for itself if it looks like no truth value and no number. The text of an
integer is taken for that. -/
inductive TakenFor (text : String) : Scalar → Prop where
  | text (htrue : lowerCase text ≠ "true") (hfalse : lowerCase text ≠ "false")
      (hinteger : integer? text = none) (hfloat : Decimal.spelled? text.toList = none) :
      TakenFor text (.text text)
  | integer {value : Int} (hinteger : integer? text = some value) :
      TakenFor text (.integer value)

/-- The text of an integer begins with a sign or a digit. -/
theorem exists_head_of_integer? {text : String} {value : Int} (h : integer? text = some value) :
    ∃ c rest, text.toList = c :: rest ∧ (c = '-' ∨ c = '+' ∨ c.isDigit) := by
  unfold integer? at h
  cases htext : text.toList with
  | nil =>
      rw [htext] at h
      cases h
  | cons c rest =>
      refine ⟨c, rest, rfl, ?_⟩
      by_cases hminus : c = '-'
      · exact .inl hminus
      by_cases hplus : c = '+'
      · exact .inr (.inl hplus)
      rw [htext, Text.takeSign_of_ne hminus hplus] at h
      obtain ⟨magnitude, hmagnitude, -⟩ := Option.bind_eq_some_iff.mp h
      unfold Text.natural? at hmagnitude
      split at hmagnitude
      next hdigits =>
        exact .inr (.inr (List.all_eq_true.mp hdigits.2 c List.mem_cons_self))
      next => cases hmagnitude

/-- An integer is no word. -/
theorem lowerCase_ne_of_integer? {text word : String} {value : Int}
    (h : integer? text = some value) {letter : Char} (hword : word.toList.head? = some letter)
    (hletter : letter.isDigit = false ∧ letter ≠ '-' ∧ letter ≠ '+') : lowerCase text ≠ word := by
  rintro rfl
  obtain ⟨c, rest, htext, hc⟩ := exists_head_of_integer? h
  rw [lowerCase, String.toList_map, htext, List.map_cons, List.head?_cons, Option.some.injEq]
    at hword
  subst hword
  rcases hc with rfl | rfl | hc
  · exact hletter.2.1 rfl
  · exact hletter.2.2 rfl
  · rw [Text.toLower_of_isDigit hc, hc] at hletter
    cases hletter.1

theorem guess_of_takenFor {text : String} {scalar : Scalar} (h : TakenFor text scalar) :
    guess text = scalar := by
  cases h with
  | text htrue hfalse hinteger hfloat =>
      simp only [guess, htrue, hfalse, hinteger, hfloat, if_false]
  | integer hinteger =>
      have htrue : lowerCase text ≠ "true" := lowerCase_ne_of_integer? hinteger rfl (by decide)
      have hfalse : lowerCase text ≠ "false" := lowerCase_ne_of_integer? hinteger rfl (by decide)
      simp only [guess, htrue, hfalse, hinteger, if_false]

/-- The variables that give settings, with the groups of those and their names. -/
def settingVariables : List (String × String × String) := [
  ("SIFT_FILTER__PATTERNS", "filter", "patterns"),
  ("SIFT_FILTER__INDENT", "filter", "indent"),
  ("SIFT_REPORT__TOOL_NAME", "report", "tool_name")]

theorem exists_key_of_mem_settingVariables {setter group name : String}
    (h : (setter, group, name) ∈ settingVariables) :
    ∃ key, settingKey? setter = some key ∧ KeyPath.ofText key = ⟨group, [.key name]⟩ := by
  have hall : ∀ entry ∈ settingVariables, settingKey? entry.1 = some (entry.2.1 ++ "." ++ entry.2.2) ∧
      KeyPath.ofText (entry.2.1 ++ "." ++ entry.2.2) = ⟨entry.2.1, [.key entry.2.2]⟩ := by
    decide +kernel
  exact ⟨_, hall _ h⟩

theorem setter_unique {first second group name : String}
    (hfirst : (first, group, name) ∈ settingVariables)
    (hsecond : (second, group, name) ∈ settingVariables) : first = second := by
  simp only [settingVariables, List.mem_cons, Prod.mk.injEq, List.not_mem_nil, or_false]
    at hfirst hsecond
  grind

/-- What the values of a variable are taken for. -/
def VariableTells (environment : Environment) (setter : String) (said : Option Scalar) : Prop :=
  (∀ text, (setter, text) ∈ environment → ∃ scalar, said = some scalar ∧ TakenFor text scalar) ∧
  (∀ scalar, said = some scalar → ∃ text, (setter, text) ∈ environment)

/-- The variables say of a setting what its own variable says. -/
theorem lays_overlaySource_variables {environment : Environment} {setter group name : String}
    {said : Option Scalar} (hsetter : (setter, group, name) ∈ settingVariables)
    (honly : ∀ entry ∈ environment, settingKey? entry.1 ≠ none →
      ∃ group name, (entry.1, group, name) ∈ settingVariables)
    (htells : VariableTells environment setter said) :
    Lays (Item.Shows group name) Item.overlaySource said (ofVariables environment) := by
  refine Lays.foldl ?_ ?_
  · intro entry hentry
    obtain ⟨⟨other, text⟩, hmem, hother⟩ := List.mem_filterMap.mp hentry
    obtain ⟨key, hkey, rfl⟩ := Option.map_eq_some_iff.mp hother
    obtain ⟨itsGroup, itsName, hits⟩ := honly _ hmem (by simp [hkey])
    obtain ⟨found, hfound, hpath⟩ := exists_key_of_mem_settingVariables hits
    rw [hkey] at hfound
    cases hfound
    by_cases hgroup : group = itsGroup
    · subst hgroup
      have hlays := Item.lays_overlayAt_scalar hpath name (some variablesSource)
        (guess text)
      by_cases hname : itsName = name
      · subst hname
        cases setter_unique hsetter hits
        obtain ⟨scalar, rfl, htaken⟩ := htells.1 text hmem
        rw [guess_of_takenFor htaken, if_pos rfl] at hlays
        rw [guess_of_takenFor htaken]
        exact .inr hlays
      · rw [if_neg hname] at hlays
        exact .inl hlays
    · exact .inl (Item.lays_overlayAt_of_ne hpath hgroup _)
  · cases hheard : said with
    | none => exact .inl rfl
    | some scalar =>
        obtain ⟨text, hmem⟩ := htells.2 scalar hheard
        obtain ⟨found, hfound, htaken⟩ := htells.1 text hmem
        obtain ⟨key, hkey, hpath⟩ := exists_key_of_mem_settingVariables hsetter
        rw [hheard] at hfound
        cases hfound
        have hlays := Item.lays_overlayAt_scalar hpath name (some variablesSource) scalar
        rw [if_pos rfl] at hlays
        refine .inr ⟨_, List.mem_filterMap.mpr ⟨_, hmem, ?_⟩, hlays⟩
        simp only [hkey, guess_of_takenFor htaken, Option.map_some]

/-! ## All layers -/

/-- What a layer gives of the settings. -/
structure Given where
  /-- The filter. -/
  patterns : Option String := none
  /-- The spaces for each level of a written report. -/
  indent : Option Nat := none
  /-- The name of a tool that does not name itself. -/
  toolName : Option String := none

namespace Given

/-- A layer over another one, setting by setting. -/
def upon (upper lower : Given) : Given where
  patterns := upper.patterns.or lower.patterns
  indent := upper.indent.or lower.indent
  toolName := upper.toolName.or lower.toolName

/-- The settings, where what is not given has a value of its own. -/
def settings (given : Given) : Settings where
  filtering := { patterns := given.patterns.getD "", indent := given.indent.getD 4 }
  reporting := { toolName := given.toolName }

/-- What stands at the settings is what was given. -/
structure ShownBy (given : Given) (item : Item) : Prop where
  patterns : item.Shows "filter" "patterns" (given.patterns.map .text)
  indent : item.Shows "filter" "indent" (given.indent.map fun (width : Nat) => .integer width)
  toolName : item.Shows "report" "tool_name" (given.toolName.map .text)

end Given

/-- The letters, digits, underscores and hyphens of a name that needs no quotes, where all the
letters are small. -/
def IsBareName (name : String) : Prop :=
  ∀ c ∈ name.toList, c.isLower ∨ c.isDigit ∨ c = '_' ∨ c = '-'

/-- The fields of a settings file give these settings, and may say anything under other names. -/
structure FieldsGive (fields : List (String × Toml.Value)) (given : Given) : Prop where
  names : ∀ field ∈ fields, IsBareName field.1
  tables : ∀ field ∈ fields, field.1 = "filter" ∨ field.1 = "report" →
    ∃ inner, field.2 = .table inner
  patterns : Tells fields "filter" "patterns" (given.patterns.map .text)
  indent : Tells fields "filter" "indent" (given.indent.map fun (width : Nat) => .integer width)
  toolName : Tells fields "report" "tool_name" (given.toolName.map .text)

/-- The settings file gives these settings, or there is none. All its numbers have a value. -/
inductive FileGives (tree : Files.Tree) (path : String) : Given → Prop where
  | missing (hmissing : locate tree path = none) : FileGives tree path {}
  | there {found : String} {bytes : List UInt8} {fields : List (String × Toml.Value)}
      {items : List (String × Item)} {given : Given} (hfound : locate tree path = some found)
      (hbytes : tree.content found = .ok bytes) (hread : Toml.read (fileText bytes) = .ok fields)
      (hnumbers : Item.ofFields (Files.shortPath found) fields = .ok items)
      (hfields : FieldsGive fields given) : FileGives tree path given

/-- The variables give these settings. -/
structure VariablesGive (environment : Environment) (given : Given) : Prop where
  only : ∀ entry ∈ environment, settingKey? entry.1 ≠ none →
    entry.1 = "SIFT_FILTER__PATTERNS" ∨ entry.1 = "SIFT_FILTER__INDENT" ∨
      entry.1 = "SIFT_REPORT__TOOL_NAME"
  patterns : VariableTells environment "SIFT_FILTER__PATTERNS" (given.patterns.map .text)
  indent : VariableTells environment "SIFT_FILTER__INDENT"
    (given.indent.map fun (width : Nat) => .integer width)
  toolName : VariableTells environment "SIFT_REPORT__TOOL_NAME" (given.toolName.map .text)

namespace Item

theorem eq_none_of_stands {said : Option Scalar} (h : Stands said none) : said = none := by
  cases said with
  | none => rfl
  | some value =>
      obtain ⟨_, h⟩ := h
      cases h

/-- A group that is a table is read setting by setting. -/
theorem get_of_stands {α β : Type} {given : Option α} {encode : α → Scalar} {decode : α → β}
    {source : Option String} {fields : List (String × Item)} {name : String}
    (h : Stands (given.map encode) (fields.lookup name)) {read : String → Item → Except Mismatch β}
    (hread : ∀ key source value, read key (.scalar source (encode value)) = .ok (decode value))
    (expected : Expected) (group : String) (place : Nat) (default : β) :
    (Item.table source fields).get expected group name place read default =
      .ok (given.elim default decode) := by
  cases given with
  | none =>
      have hlookup : fields.lookup name = none := h
      simp only [get, setting?, hlookup]
      rfl
  | some value =>
      obtain ⟨origin, hlookup⟩ := h
      simp only [get, setting?, hlookup]
      exact hread ..

theorem toNatural_natural (key : String) (source : Option String) (value : Nat) :
    toNatural key (.scalar source (.integer value)) = .ok value := by
  have hnatural : ¬ (value : Int) < 0 := by omega
  simp only [toNatural, hnatural, if_false, Int.toNat_natCast]

theorem toFiltering_of_shows {item : Item} {patterns : Option String} {indent : Option Nat}
    (hpatterns : item.Shows "filter" "patterns" (patterns.map .text))
    (hindent : item.Shows "filter" "indent" (indent.map fun (width : Nat) => .integer width)) :
    (item.group? "filter").elim (pure {}) toFiltering =
      .ok ⟨patterns.getD "", indent.getD 4⟩ := by
  obtain ⟨htable, hpatterns⟩ := hpatterns
  obtain ⟨-, hindent⟩ := hindent
  unfold at? at hpatterns hindent
  cases hgroup : item.group? "filter" with
  | none =>
      rw [hgroup] at hpatterns hindent
      cases Option.map_eq_none_iff.mp (eq_none_of_stands hpatterns)
      cases Option.map_eq_none_iff.mp (eq_none_of_stands hindent)
      rfl
  | some found =>
      rw [hgroup] at hpatterns hindent
      have hfound := htable found hgroup
      cases found with
      | table source fields =>
          have hreadPatterns : (Item.table source fields).get .filtering "filter" "patterns" 0
              toText ({} : Filtering).patterns = .ok (patterns.elim "" id) :=
            get_of_stands hpatterns (fun _ _ _ => rfl) ..
          have hreadIndent : (Item.table source fields).get .filtering "filter" "indent" 1
              toNatural ({} : Filtering).indent = .ok (indent.elim 4 id) :=
            get_of_stands hindent toNatural_natural ..
          rw [Option.elim_some, toFiltering, hreadPatterns, hreadIndent]
          cases patterns <;> cases indent <;> rfl
      | _ => exact absurd hfound id

theorem toReporting_of_shows {item : Item} {toolName : Option String}
    (h : item.Shows "report" "tool_name" (toolName.map .text)) :
    (item.group? "report").elim (pure {}) toReporting = .ok ⟨toolName⟩ := by
  obtain ⟨htable, h⟩ := h
  unfold at? at h
  cases hgroup : item.group? "report" with
  | none =>
      rw [hgroup] at h
      cases Option.map_eq_none_iff.mp (eq_none_of_stands h)
      rfl
  | some found =>
      rw [hgroup] at h
      have hfound := htable found hgroup
      cases found with
      | table source fields =>
          have hread : (Item.table source fields).get .reporting "report" "tool_name" 0
              toText? none = .ok (toolName.elim none some) :=
            get_of_stands h (fun _ _ _ => rfl) ..
          rw [Option.elim_some, toReporting, hread]
          cases toolName <;> rfl
      | _ => exact absurd hfound id

end Item

theorem toSettings_of_shownBy {given : Given} {item : Item} (h : given.ShownBy item) :
    item.toSettings = .ok given.settings :=
  toSettings_eq_ok_iff.mpr
    ⟨Item.toFiltering_of_shows h.patterns h.indent, Item.toReporting_of_shows h.toolName⟩

theorem isNameChar_of_isBare {c : Char} (h : c.isLower ∨ c.isDigit ∨ c = '_' ∨ c = '-') :
    KeyPath.isNameChar c := by
  unfold KeyPath.isNameChar Char.isAlphanum Char.isAlpha
  rcases h with h | h | rfl | rfl
  · simp [h]
  · simp [h]
  · rfl
  · rfl

/-- A bare name is a path by itself. -/
theorem ofText_of_isBareName {name : String} (h : IsBareName name) :
    KeyPath.ofText name = ⟨name, []⟩ := by
  have htake : name.toList.takeWhile KeyPath.isNameChar = name.toList :=
    List.takeWhile_eq_self_iff.mpr fun c hc => isNameChar_of_isBare (h c hc)
  unfold KeyPath.ofText KeyPath.takeName
  rw [htake]
  by_cases hempty : name.toList = []
  · simp [hempty]
  · simp [hempty, KeyPath.takeSteps]

/-- Both layers over nothing show for a setting what the upper one says, or else the lower. -/
theorem shows_overlaySource {group name : String} {upper lower : Option Scalar}
    {ambient file : List (String × Item)}
    (hupper : Lays (Item.Shows group name) Item.overlaySource upper ambient)
    (hlower : Lays (Item.Shows group name) Item.overlaySource lower file) :
    (((Item.table none []).overlaySource file).overlaySource ambient).Shows group name
      (upper.or lower) := by
  have hempty : (Item.table none []).Shows group name none := by
    refine ⟨?_, rfl⟩
    rintro _ ⟨⟩
  have hfile := hlower none _ hempty
  rw [Option.or_none] at hfile
  exact hupper lower _ hfile

/-- What the settings file says of every setting. -/
theorem exists_ofFile_of_fileGives {tree : Files.Tree} {path : String} {given : Given}
    (h : FileGives tree path given) :
    ∃ items, ofFile tree path = .ok items ∧
      Lays (Item.Shows "filter" "patterns") Item.overlaySource (given.patterns.map .text) items ∧
      Lays (Item.Shows "filter" "indent") Item.overlaySource
        (given.indent.map fun (width : Nat) => .integer width) items ∧
      Lays (Item.Shows "report" "tool_name") Item.overlaySource (given.toolName.map .text)
        items := by
  cases h with
  | missing hmissing =>
      refine ⟨[], ?_, ?_⟩
      · rw [ofFile, hmissing]
      · exact ⟨fun _ _ => id, fun _ _ => id, fun _ _ => id⟩
  | there hfound hbytes hread hnumbers hfields =>
      have hpaths := fun field hmem => ofText_of_isBareName (hfields.names field hmem)
      have hfilter := fun value hmem => hfields.tables ("filter", value) hmem (.inl rfl)
      have hreport := fun value hmem => hfields.tables ("report", value) hmem (.inr rfl)
      refine ⟨_, ?_, lays_overlaySource_file hnumbers hpaths hfilter hfields.patterns,
        lays_overlaySource_file hnumbers hpaths hfilter hfields.indent,
        lays_overlaySource_file hnumbers hpaths hreport hfields.toolName⟩
      simp only [ofFile, hfound, hbytes]
      rw [ofText, hread]
      exact mapError_eq_ok_iff.mpr hnumbers

/-- The settings are taken from the variables if they give them, else from the file, else they
have values of their own, one by one. -/
theorem load_of_gives {tree : Files.Tree} {environment : Environment} {path : String}
    {ambient file : Given} (hfile : FileGives tree path file)
    (hvariables : VariablesGive environment ambient) :
    load tree environment path = .ok (ambient.upon file).settings := by
  obtain ⟨items, hitems, hpatterns, hindent, htoolName⟩ := exists_ofFile_of_fileGives hfile
  have honly : ∀ entry ∈ environment, settingKey? entry.1 ≠ none →
      ∃ group name, (entry.1, group, name) ∈ settingVariables := by
    intro entry hentry hsetting
    rcases hvariables.only entry hentry hsetting with heq | heq | heq
    · exact ⟨"filter", "patterns", by simp [settingVariables, heq]⟩
    · exact ⟨"filter", "indent", by simp [settingVariables, heq]⟩
    · exact ⟨"report", "tool_name", by simp [settingVariables, heq]⟩
  have hshown : (ambient.upon file).ShownBy
      (((Item.table none []).overlaySource items).overlaySource (ofVariables environment)) := by
    constructor
    · rw [Given.upon, Option.map_or]
      exact shows_overlaySource (lays_overlaySource_variables (by decide) honly
        hvariables.patterns) hpatterns
    · rw [Given.upon, Option.map_or]
      exact shows_overlaySource (lays_overlaySource_variables (by decide) honly
        hvariables.indent) hindent
    · rw [Given.upon, Option.map_or]
      exact shows_overlaySource (lays_overlaySource_variables (by decide) honly
        hvariables.toolName) htoolName
  rw [load, hitems]
  exact mapError_eq_ok_iff.mpr (toSettings_of_shownBy hshown)

end Suppression.Settings
