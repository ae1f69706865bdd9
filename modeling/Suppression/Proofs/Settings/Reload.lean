import Suppression.Proofs.Settings.Layers
import Suppression.Proofs.Text.Bytes
import Suppression.Proofs.Toml.Lines
import Suppression.Settings.Written

/-!
# Written settings are loaded again

Settings are written as a settings file that gives each of them. The reader finds the lines that
were written, and in them the texts and the width. Only a width beyond the integers of the format
is refused.
-/

namespace Suppression.Settings

open Toml (Line LinesOf Spelling fieldText headerText linesOf_header linesOf_field linesOf_text)

/-! ## The lines -/

theorem toList_textLine (key text : String) :
    (textLine key text).toList = fieldText key (Toml.writeText text.toList) [] := by
  simp [textLine, fieldText, String.toList_append]

variable (settings : Settings)

/-- The digits of the width. -/
def widthDigits : List Char := Nat.toDigits 10 settings.filtering.indent

/-- The text of the second table. -/
def reportText : List Char :=
  settings.reporting.toolName.elim [] fun name =>
    fieldText "tool_name" (Toml.writeText name.toList) []

theorem toList_written : settings.written.toList =
    headerText "filter" (fieldText "patterns" (Toml.writeText settings.filtering.patterns.toList)
      (fieldText "indent" settings.widthDigits
        ('\n' :: headerText "report" settings.reportText))) := by
  have hreport : (settings.reporting.toolName.elim "" (textLine "tool_name")).toList =
      settings.reportText := by
    rw [reportText]
    cases settings.reporting.toolName with
    | none => rfl
    | some name => exact toList_textLine "tool_name" name
  simp only [written, String.toList_append, hreport, toList_textLine, Nat.toString_eq_repr,
    Nat.toList_repr]
  simp [headerText, fieldText, widthDigits]

/-- The lines of written settings. -/
def writtenLines : List Line :=
  .table ["filter"] :: .field ["patterns"] (.text settings.filtering.patterns) ::
    .field ["indent"] (.bare settings.widthDigits) :: .blank :: .table ["report"] ::
      (settings.reporting.toolName.map fun name => Line.field ["tool_name"] (.text name)).toList

theorem isDigit_of_mem_widthDigits : ∀ c ∈ settings.widthDigits, c.isDigit := fun _ hc =>
  Nat.isDigit_of_mem_toDigits (by decide) (by decide) hc

/-- The lines that are read from written settings. -/
theorem linesOf_written : LinesOf settings.writtenLines settings.written.toList := by
  have hreport : LinesOf (settings.reporting.toolName.map fun name =>
      Line.field ["tool_name"] (.text name)).toList settings.reportText := by
    rw [reportText]
    cases settings.reporting.toolName with
    | none => exact Toml.linesOf_nil
    | some name => exact linesOf_text ⟨by decide, rfl⟩ name Toml.linesOf_nil
  have hdigits := isDigit_of_mem_widthDigits settings
  have hne : settings.widthDigits ≠ [] := Nat.toDigits_ne_nil
  rw [toList_written]
  refine linesOf_header ⟨by decide, rfl⟩ (linesOf_text ⟨by decide, rfl⟩ _
    (linesOf_field ⟨by decide, rfl⟩ ⟨hne, ?_, ?_⟩
      (Toml.readSpelling_digits Toml.depthLimit hne hdigits _) ?_))
  · intro hspace
    cases hdigits ' ' (List.mem_of_mem_head? hspace)
  · intro htab
    cases hdigits '\t' (List.mem_of_mem_head? htab)
  · refine LinesOf.cons rfl ?_ (linesOf_header ⟨by decide, rfl⟩ hreport)
    exact Nat.lt_succ_self _

/-! ## The fields -/

/-- The fields of the first table, in the order of their names. -/
def filterFields : List (String × Toml.Value) := [
  ("indent", .scalar (.number (.integer 10 settings.widthDigits))),
  ("patterns", .scalar (.string settings.filtering.patterns))]

/-- The fields of the second table. -/
def reportFields : List (String × Toml.Value) :=
  (settings.reporting.toolName.map fun name =>
    ("tool_name", Toml.Value.scalar (.string name))).toList

/-- The fields of written settings. -/
def writtenFields : List (String × Toml.Value) :=
  [("filter", .table settings.filterFields), ("report", .table settings.reportFields)]

theorem value_widthDigits : (Spelling.bare settings.widthDigits).value =
    .ok (.scalar (.number (.integer 10 settings.widthDigits))) := by
  have hzero : settings.widthDigits.head? ≠ some '0' ∨ settings.widthDigits = ['0'] := by
    rw [widthDigits]
    rcases Nat.eq_zero_or_pos settings.filtering.indent with hindent | hindent
    · rw [hindent]
      exact .inr rfl
    · exact .inl (Text.head?_toDigits_ne_zero hindent)
  have hne : settings.widthDigits ≠ [] := Nat.toDigits_ne_nil
  rw [Spelling.value, Toml.readBare?_digits hne (isDigit_of_mem_widthDigits settings) hzero]
  rfl

/-- The tables that the lines make up, in the order of the lines. -/
def writtenTables : Toml.Fields := [
  ("filter", .table .opened [
    ("patterns", .value (.scalar (.string settings.filtering.patterns))),
    ("indent", .value (.scalar (.number (.integer 10 settings.widthDigits))))]),
  ("report", .table .opened (settings.reporting.toolName.map fun name =>
    ("tool_name", Toml.Draft.value (.scalar (.string name)))).toList)]

theorem foldlM_addLine_written :
    settings.writtenLines.foldlM Toml.addLine ([], []) =
      .ok (["report"], settings.writtenTables) := by
  have hfilter : Toml.addLine ([], []) (.table ["filter"]) =
      .ok (["filter"], [("filter", .table .opened [])]) := rfl
  have hpatterns : Toml.addLine (["filter"], [("filter", .table .opened [])])
      (.field ["patterns"] (.text settings.filtering.patterns)) =
        .ok (["filter"], [("filter", .table .opened [
          ("patterns", .value (.scalar (.string settings.filtering.patterns)))])]) := rfl
  have hindent : Toml.addLine (["filter"], [("filter", .table .opened [
      ("patterns", .value (.scalar (.string settings.filtering.patterns)))])])
        (.field ["indent"] (.bare settings.widthDigits)) =
          .ok (["filter"], [("filter", .table .opened [
            ("patterns", .value (.scalar (.string settings.filtering.patterns))),
            ("indent", .value (.scalar (.number (.integer 10 settings.widthDigits))))])]) := by
    rw [Toml.addLine, value_widthDigits]
    rfl
  rw [writtenLines, writtenTables, List.foldlM_cons, hfilter, ok_bind, List.foldlM_cons, hpatterns,
    ok_bind, List.foldlM_cons, hindent, ok_bind]
  cases settings.reporting.toolName with
  | none => rfl
  | some name => rfl

theorem inOrder_pair (first second : String × Toml.Value) :
    Toml.Draft.inOrder [first, second] =
      if first.1 ≤ second.1 then [first, second] else [second, first] := by
  simp [Toml.Draft.inOrder, List.mergeSort, List.MergeSort.Internal.splitInTwo, List.merge]

theorem ofLines_written : Toml.ofLines settings.writtenLines = .ok settings.writtenFields := by
  have hfirst : ¬ "patterns" ≤ "indent" := by decide
  have hsecond : "filter" ≤ "report" := by decide
  have hreport : Toml.Draft.inOrder (Toml.Draft.finishFields
      (settings.reporting.toolName.map fun name =>
        ("tool_name", Toml.Draft.value (.scalar (.string name)))).toList) =
      settings.reportFields := by
    rw [reportFields]
    cases settings.reporting.toolName with
    | none => exact List.mergeSort_nil
    | some name => exact List.mergeSort_singleton _
  rw [Toml.ofLines, foldlM_addLine_written, ok_bind, writtenTables]
  simp only [Toml.Draft.finishFields, Toml.Draft.finish, inOrder_pair, hfirst, hsecond, hreport,
    if_true, if_false]
  rfl

/-- What is read from written settings. -/
theorem read_written : Toml.read settings.written = .ok settings.writtenFields := by
  have hlines : Toml.readLines (settings.written.length + 1) settings.written.toList =
      some settings.writtenLines := by
    apply linesOf_written
    rw [String.length_toList]
    exact Nat.lt_succ_self _
  have hmark : Toml.skipMark settings.written.toList = settings.written.toList := by
    rw [toList_written]
    rfl
  rw [Toml.read, hmark, hlines]
  exact ofLines_written settings

/-! ## The settings -/

/-- Everything is given. -/
def given : Given where
  patterns := some settings.filtering.patterns
  indent := some settings.filtering.indent
  toolName := settings.reporting.toolName

/-- The width is the only number, so only the width can be refused. -/
theorem ofFields_written (source : String) :
    Item.ofFields source settings.writtenFields =
      (Toml.Numeral.toInteger 10 settings.widthDigits).map fun width => [
        ("filter", .table (some source) [
          ("indent", .scalar (some source) (.integer width)),
          ("patterns", .scalar (some source) (.text settings.filtering.patterns))]),
        ("report", .table (some source) (settings.reporting.toolName.map fun name =>
          ("tool_name", Item.scalar (some source) (.text name))).toList)] := by
  have hreport : Item.ofFields source settings.reportFields =
        .ok (settings.reporting.toolName.map fun name =>
          ("tool_name", Item.scalar (some source) (.text name))).toList := by
    rw [reportFields]
    cases settings.reporting.toolName <;> rfl
  simp only [writtenFields, filterFields, Item.ofFields, Item.ofValue, Item.ofScalar, hreport]
  cases Toml.Numeral.toInteger 10 settings.widthDigits <;> rfl

theorem tells_of_only {fields inner : List (String × Toml.Value)} {group name : String}
    {value : Toml.Value} {scalar : Scalar}
    (hgroup : ∀ other, (group, .table other) ∈ fields ↔ other = inner)
    (hname : ∀ other, (name, other) ∈ inner ↔ other = value) (hspells : Spells value scalar) :
    Tells fields group name (some scalar) := by
  constructor
  · intro other found hother hfound
    cases (hgroup other).mp hother
    cases (hname found).mp hfound
    exact ⟨scalar, rfl, hspells⟩
  · rintro _ ⟨⟩
    exact ⟨inner, value, (hgroup inner).mpr rfl, (hname value).mpr rfl⟩

/-- Written settings give every setting, if the width fits. -/
theorem fieldsGive_written (h : settings.filtering.indent < Decimal.halfSize) :
    FieldsGive settings.writtenFields settings.given := by
  have hwidth : Toml.Numeral.toInteger 10 settings.widthDigits =
      .ok (settings.filtering.indent : Int) := by
    rw [widthDigits, Toml.toInteger_toDigits, if_pos h]
  have hfilter : ∀ inner, ("filter", Toml.Value.table inner) ∈ settings.writtenFields ↔
      inner = settings.filterFields := by simp [writtenFields]
  have hreport : ∀ inner, ("report", Toml.Value.table inner) ∈ settings.writtenFields ↔
      inner = settings.reportFields := by simp [writtenFields]
  constructor
  · have hnames : ∀ field ∈ settings.writtenFields, field.1.toList.all Char.isLower := by
      simp only [writtenFields, List.forall_mem_cons]
      exact ⟨rfl, rfl, by simp⟩
    exact fun field hfield c hc => .inl (List.all_eq_true.mp (hnames field hfield) c hc)
  · have htables : ∀ field ∈ settings.writtenFields, ∃ inner, field.2 = .table inner := by
      simp [writtenFields]
    exact fun field hfield _ => htables field hfield
  · exact tells_of_only hfilter (by simp [filterFields]) (.text _)
  · exact tells_of_only hfilter (by simp [filterFields]) (.integer hwidth)
  · cases hname : settings.reporting.toolName with
    | none =>
        rw [given, hname]
        refine ⟨?_, by rintro _ ⟨⟩⟩
        intro inner value hinner hvalue
        cases (hreport inner).mp hinner
        simp [reportFields, hname] at hvalue
    | some name =>
        rw [given, hname]
        exact tells_of_only hreport (by simp [reportFields, hname]) (.text _)

/-- A text that begins with a character below 128 has no byte order mark. -/
theorem fileText_encode {text : String} {c : Char} {rest : List Char}
    (htext : text.toList = c :: rest) (hc : c.toNat < 128) :
    fileText (Text.encode text) = text := by
  have hdecode := Text.decode_encode text
  rw [Text.encode_eq_bytes, htext, Text.bytes_cons_of_lt hc] at hdecode ⊢
  rw [← hdecode]
  unfold fileText
  split
  next heq =>
    injection heq with hbyte _
    have hcode := Text.toNat_ofNat_of_lt hc
    rw [hbyte] at hcode
    exact absurd (hcode ▸ hc) (by decide)
  next => rfl

theorem read_fileText_written :
    Toml.read (fileText (Text.encode settings.written)) = .ok settings.writtenFields := by
  have htext : settings.written.toList = '[' :: _ := toList_written settings
  rw [fileText_encode htext (by decide), read_written]

/-- Settings that a file was written from are given by it. -/
theorem fileGives_written {tree : Files.Tree} {path found : String}
    (hwidth : settings.filtering.indent < Decimal.halfSize) (hfound : locate tree path = some found)
    (hcontent : tree.content found = .ok (Text.encode settings.written)) :
    FileGives tree path settings.given := by
  have hnumbers := ofFields_written settings (Files.shortPath found)
  rw [widthDigits, Toml.toInteger_toDigits, if_pos hwidth] at hnumbers
  exact .there hfound hcontent (read_fileText_written settings) hnumbers
    (fieldsGive_written settings hwidth)

theorem variablesGive_nothing {environment : Environment}
    (h : ∀ entry ∈ environment, settingKey? entry.1 = none) : VariablesGive environment {} := by
  have hnothing (setter : String) (hsetter : settingKey? setter ≠ none) :
      VariableTells environment setter none := by
    refine ⟨?_, by rintro _ ⟨⟩⟩
    exact fun text htext => absurd (h _ htext) hsetter
  exact ⟨fun entry hentry hsetting => absurd (h entry hentry) hsetting,
    hnothing _ (by decide +kernel), hnothing _ (by decide +kernel), hnothing _ (by decide +kernel)⟩

/-- A settings file with this content gives the settings again, if the width has a place among
the integers of the format, and is refused otherwise. -/
theorem load_written {tree : Files.Tree} {environment : Environment} {path found : String}
    (henvironment : ∀ entry ∈ environment, settingKey? entry.1 = none)
    (hfound : locate tree path = some found)
    (hcontent : tree.content found = .ok (Text.encode settings.written)) :
    load tree environment path =
      if settings.filtering.indent < Decimal.halfSize then .ok settings
      else .error (.badNumber .tooGreat (Files.shortPath found)) := by
  by_cases hwidth : settings.filtering.indent < Decimal.halfSize
  · rw [if_pos hwidth]
    exact load_of_gives (fileGives_written settings hwidth hfound hcontent)
      (variablesGive_nothing henvironment)
  · have hnumbers := ofFields_written settings (Files.shortPath found)
    rw [widthDigits, Toml.toInteger_toDigits, if_neg hwidth] at hnumbers
    rw [if_neg hwidth]
    simp only [load, ofFile, hfound, hcontent, ofText, read_fileText_written]
    change ((Item.ofFields _ settings.writtenFields).mapError _ >>= _) = _
    rw [hnumbers]
    rfl

/-- The variable that says where the settings file is. -/
def settingsEnvironment : Environment := [("XDG_CONFIG_HOME", "c")]

/-- A settings file where it is expected. -/
def settingsTree (content : String) : Files.Tree := ⟨[
  (["c"], .directory), (["c", "sift"], .directory),
  (["c", "sift", "config.toml"], .file (Text.encode content))]⟩

end Suppression.Settings
