import Mathlib.Algebra.BigOperators.Group.List.Basic
import Suppression.Console.Markdown
import Suppression.Proofs.Filter.Cutting
import Suppression.Proofs.Glob.Validity
import Suppression.Proofs.Sarif.Ranking
import Suppression.Proofs.Text.Runs

/-!
# Tables of texts

The rows of a page hold names from a report or globs from a filter, as they are. A row keeps to
its line as long as these texts hold no line end, and it has the cells of its table as long as
every bar in the texts has a backslash that takes it along. Then what the row is about can be read
off again. Any other text breaks its row.
-/

namespace Suppression.Console

open Suppression.Filter (cutUnshielded cutUnshielded_cons cutUnshielded_append_cons cutUnshielded_eq_singleton
  length_cutUnshielded_pos length_cutUnshielded_eq_one_iff endsOpen endsOpen_cons endsOpen_concat)

/-! ## Lines and cells -/

/-- A line of a page ends here. -/
def endsLine (c : Char) : Bool := c = '\n' || c = '\r'

/-- The lines of a page, the text behind its last line end included. -/
def linesOf (page : String) : List String := (Text.pieces endsLine page.toList).map String.ofList

/-- The cells of a row: what stands between the bars that no backslash takes along. -/
def cellsOf (row : String) : List String :=
  ((cutUnshielded (· = '|') row.toList).drop 1).dropLast.map String.ofList

/-- The text holds no line end. -/
def Unbroken (text : String) : Prop := ∀ c ∈ text.toList, endsLine c = false

/-- Every bar of the text has an odd number of backslashes directly in front of it, the last of
which takes it along. -/
def BarsShielded (text : String) : Prop :=
  ∀ before after, text.toList = before ++ '|' :: after → Odd (Glob.backslashesBehind before)

theorem barsShielded_of_not_mem {text : String} (h : '|' ∉ text.toList) : BarsShielded text := by
  intro before after hcut
  apply absurd _ h
  rw [hcut]
  exact List.mem_append_right _ List.mem_cons_self

/-- The bars are shielded if cutting at the others leaves the text in one piece. -/
theorem length_cutUnshielded_toList_eq_one_iff (text : String) :
    (cutUnshielded (· = '|') text.toList).length = 1 ↔ BarsShielded text := by
  rw [length_cutUnshielded_eq_one_iff (by decide)]
  simp only [BarsShielded, Glob.backslashesBehind, ← Filter.endsOpen_iff_odd, decide_eq_true_eq]
  constructor
  · intro h before after hcut
    exact h before '|' after hcut rfl
  · rintro h before c after hcut rfl
    exact h before after hcut

theorem cutUnshielded_toList_eq_singleton {text : String} (h : BarsShielded text) :
    cutUnshielded (· = '|') text.toList = [text.toList] := by
  apply cutUnshielded_eq_singleton
  rw [← length_cutUnshielded_eq_one_iff (by decide), length_cutUnshielded_toList_eq_one_iff]
  exact h

theorem linesOf_eq_singleton_iff (text : String) : linesOf text = [text] ↔ Unbroken text := by
  constructor
  · intro h c hc
    have hpiece : text ∈ linesOf text := by rw [h]; exact List.mem_singleton_self text
    obtain ⟨piece, hpiece, rfl⟩ := List.mem_map.mp hpiece
    rw [String.toList_ofList] at hpiece hc
    exact Text.separates_eq_false_of_mem_pieces hpiece hc
  · intro h
    rw [linesOf, Text.pieces_eq_singleton h, List.map_singleton, String.ofList_toList]

/-- A line end behind a text cuts it off from what follows. -/
theorem linesOf_append (text : String) {c : Char} (h : endsLine c = true) (behind : String) :
    linesOf (text ++ String.singleton c ++ behind) = linesOf text ++ linesOf behind := by
  have htext : (text ++ String.singleton c ++ behind).toList = text.toList ++ c :: behind.toList :=
    by simp
  simp only [linesOf, Text.pieces_eq_splitOnP, htext, List.splitOnP_append_cons _ _ h,
    List.map_append]

theorem linesOf_lines (texts : List String) :
    linesOf (lines texts) = texts.flatMap linesOf ++ [""] := by
  induction texts with
  | nil => rfl
  | cons text texts ih =>
      have hlines : lines (text :: texts) = text ++ String.singleton '\n' ++ lines texts := by
        apply String.toList_inj.mp
        simp [lines, line, String.toList_join]
      rw [hlines, linesOf_append text (by decide), ih, List.flatMap_cons, List.append_assoc]

/-! ## Characters on both sides -/

/-- A text with a character on both sides. -/
def frame (c : Char) (text : String) : String := String.singleton c ++ text ++ String.singleton c

/-- A text without its first and its last character. -/
def unframe (text : String) : String := String.ofList (text.toList.drop 1).dropLast

theorem toList_frame (c : Char) (text : String) :
    (frame c text).toList = c :: text.toList ++ [c] := by
  simp [frame]

theorem unframe_frame (c : Char) (text : String) : unframe (frame c text) = text := by
  rw [unframe, toList_frame, List.cons_append, List.drop_one, List.tail_cons, List.dropLast_concat,
    String.ofList_toList]

theorem unbroken_frame_iff {c : Char} (h : endsLine c = false) {text : String} :
    Unbroken (frame c text) ↔ Unbroken text := by
  simp [Unbroken, toList_frame, h, or_imp, forall_and]

/-- A character that is no backslash and no bar neither shields a bar nor adds one. -/
theorem barsShielded_frame_iff {c : Char} (hbackslash : c ≠ '\\') (hbar : c ≠ '|')
    {text : String} : BarsShielded (frame c text) ↔ BarsShielded text := by
  simp only [BarsShielded, toList_frame, Glob.backslashesBehind, ← Filter.endsOpen_iff_odd]
  constructor
  · intro h before after hcut
    have hframe := h (c :: before) (after ++ [c]) (by simp [hcut])
    rwa [endsOpen_cons hbackslash] at hframe
  · intro h before after hcut
    -- The bar is neither of the two characters, so it stands in the text between them.
    cases before with
    | nil => exact absurd (List.cons.inj hcut).1 hbar
    | cons d before =>
        obtain ⟨hfirst, hrest⟩ := List.cons.inj hcut
        rw [← hfirst, endsOpen_cons hbackslash]
        rcases List.eq_nil_or_concat' after with rfl | ⟨behind, e, rfl⟩
        · have hlast : [c] = ['|'] := List.append_inj_right' hrest rfl
          exact absurd (List.cons.inj hlast).1 hbar
        · have hinner : text.toList ++ [c] = (before ++ '|' :: behind) ++ [e] := by
            rw [List.append_assoc]
            exact hrest
          exact h before behind (List.append_inj_left' hinner rfl)

/-! ## Rows -/

/-- A row of cells, with a blank on both sides of what each cell shows. -/
def tableRow (cells : List String) : String :=
  "|" ++ String.join (cells.map fun cell => frame ' ' cell ++ "|")

theorem toList_tableRow (cells : List String) : (tableRow cells).toList =
    '|' :: cells.flatMap fun cell => (frame ' ' cell).toList ++ ['|'] := by
  simp [tableRow, String.toList_join, List.flatMap_map]

theorem endsOpen_frame_blank (cell : String) : endsOpen (frame ' ' cell).toList = false := by
  rw [toList_frame, endsOpen_concat]
  rfl

/-- The bars of a row itself are all cuts. -/
theorem cellsOf_tableRow (cells : List String) : cellsOf (tableRow cells) =
    cells.flatMap fun cell =>
      (cutUnshielded (· = '|') (frame ' ' cell).toList).map String.ofList := by
  have hcut : cutUnshielded (· = '|')
      (cells.flatMap fun cell => (frame ' ' cell).toList ++ ['|']) =
        (cells.flatMap fun cell => cutUnshielded (· = '|') (frame ' ' cell).toList) ++ [[]] := by
    induction cells with
    | nil => rfl
    | cons cell cells ih =>
        simp only [List.flatMap_cons, List.append_assoc, List.singleton_append]
        rw [cutUnshielded_append_cons (endsOpen_frame_blank cell) (by decide) (by decide), ih]
  rw [cellsOf, toList_tableRow, cutUnshielded_cons (by decide), if_pos (by decide), hcut,
    List.drop_one, List.tail_cons, List.dropLast_concat, List.map_flatMap]

/-- Every cell that is put into a row is cut by itself, into one cell or into more. -/
theorem length_cellsOf_tableRow (cells : List String) : (cellsOf (tableRow cells)).length =
    (cells.map fun cell => (cutUnshielded (· = '|') (frame ' ' cell).toList).length).sum := by
  simp only [cellsOf_tableRow, List.length_flatMap, List.length_map]

theorem length_le_length_cellsOf_tableRow (cells : List String) :
    cells.length ≤ (cellsOf (tableRow cells)).length := by
  rw [length_cellsOf_tableRow, ← List.length_map]
  apply List.length_le_sum_of_one_le
  intro length hlength
  obtain ⟨cell, -, rfl⟩ := List.mem_map.mp hlength
  exact length_cutUnshielded_pos _ _

theorem length_cellsOf_tableRow_eq_iff (cells : List String) :
    (cellsOf (tableRow cells)).length = cells.length ↔ ∀ cell ∈ cells, BarsShielded cell := by
  induction cells with
  | nil => simp [cellsOf_tableRow]
  | cons cell cells ih =>
      have hpos := length_cutUnshielded_pos (· = '|') (frame ' ' cell).toList
      have hle := length_le_length_cellsOf_tableRow cells
      rw [List.forall_mem_cons, ← ih, ← barsShielded_frame_iff (c := ' ') (by decide) (by decide),
        ← length_cutUnshielded_toList_eq_one_iff, length_cellsOf_tableRow, List.map_cons,
        List.sum_cons, ← length_cellsOf_tableRow, List.length_cons]
      omega

/-- What a row shows can be read off its cells. -/
theorem map_unframe_cellsOf_tableRow {cells : List String} (h : ∀ cell ∈ cells, BarsShielded cell) :
    (cellsOf (tableRow cells)).map unframe = cells := by
  induction cells with
  | nil => rfl
  | cons cell cells ih =>
      obtain ⟨hcell, hcells⟩ := List.forall_mem_cons.mp h
      have hframe : BarsShielded (frame ' ' cell) :=
        (barsShielded_frame_iff (by decide) (by decide)).mpr hcell
      rw [cellsOf_tableRow, List.flatMap_cons, ← cellsOf_tableRow, List.map_append, ih hcells,
        cutUnshielded_toList_eq_singleton hframe, List.map_singleton, String.ofList_toList,
        List.map_singleton, unframe_frame, List.singleton_append]

/-- One backslash shields the bar behind it, and two shield nothing. -/
example : cellsOf (tableRow ["a\\|b", "1"]) = [" a\\|b ", " 1 "] ∧
    cellsOf (tableRow ["a\\\\|b", "1"]) = [" a\\\\", "b ", " 1 "] := by decide

/-- A row adds blanks and bars to the characters of its cells, and no others. -/
theorem mem_toList_tableRow {cells : List String} {c : Char} (h : c ∈ (tableRow cells).toList) :
    c = '|' ∨ c = ' ' ∨ ∃ cell ∈ cells, c ∈ cell.toList := by
  rw [toList_tableRow, List.mem_cons, List.mem_flatMap] at h
  rcases h with rfl | ⟨cell, hcell, hc⟩
  · exact .inl rfl
  · simp only [toList_frame, List.mem_append, List.mem_cons, List.not_mem_nil, or_false] at hc
    rcases hc with ((hc | hc) | hc) | hc
    · exact .inr (.inl hc)
    · exact .inr (.inr ⟨cell, hcell, hc⟩)
    · exact .inr (.inl hc)
    · exact .inl hc

theorem mem_toList_tableRow_of_mem {cells : List String} {cell : String} (hcell : cell ∈ cells)
    {c : Char} (hc : c ∈ cell.toList) : c ∈ (tableRow cells).toList := by
  rw [toList_tableRow]
  apply List.mem_cons_of_mem
  apply List.mem_flatMap_of_mem hcell
  simp [toList_frame, hc]

theorem unbroken_tableRow_iff (cells : List String) :
    Unbroken (tableRow cells) ↔ ∀ cell ∈ cells, Unbroken cell := by
  constructor
  · intro h cell hcell c hc
    exact h c (mem_toList_tableRow_of_mem hcell hc)
  · intro h c hc
    rcases mem_toList_tableRow hc with rfl | rfl | ⟨cell, hcell, hmem⟩
    · decide
    · decide
    · exact h cell hcell c hmem

/-! ## What a row shows -/

/-- A row of a table of this many columns shows these texts as they are, and it can be read. -/
structure Tabulates {Entry : Type} (row : String) (texts : List String) (columns : Nat)
    (read? : String → Option Entry) (entry : Entry) : Prop where
  /-- It is one line unless a text breaks it. -/
  line_iff : linesOf row = [row] ↔ ∀ text ∈ texts, Unbroken text
  /-- No text can take a cell away. -/
  columns_le : columns ≤ (cellsOf row).length
  /-- No text adds a cell if all of their bars are shielded, and some text does otherwise. -/
  columns_iff : (cellsOf row).length = columns ↔ ∀ text ∈ texts, BarsShielded text
  read?_eq : (∀ text ∈ texts, BarsShielded text) → read? row = some entry

/-- It is enough that the cells hold a line end or a bar only where one of the texts does, and that
the entry can be read once the cells are found. -/
theorem tabulates_tableRow {Entry : Type} {cells texts : List String}
    {read? : String → Option Entry} {entry : Entry}
    (hlines : (∀ cell ∈ cells, Unbroken cell) ↔ ∀ text ∈ texts, Unbroken text)
    (hbars : (∀ cell ∈ cells, BarsShielded cell) ↔ ∀ text ∈ texts, BarsShielded text)
    (hread : (cellsOf (tableRow cells)).map unframe = cells →
      read? (tableRow cells) = some entry) :
    Tabulates (tableRow cells) texts cells.length read? entry where
  line_iff := by rw [linesOf_eq_singleton_iff, unbroken_tableRow_iff, hlines]
  columns_le := length_le_length_cellsOf_tableRow cells
  columns_iff := by rw [length_cellsOf_tableRow_eq_iff, hbars]
  read?_eq := fun h => hread (map_unframe_cellsOf_tableRow (hbars.mpr h))

theorem isDigit_of_mem_repr {n : Nat} {c : Char} (h : c ∈ n.repr.toList) :
    c.isDigit = true := by
  apply Nat.isDigit_of_mem_toDigits (b := 10) (by decide) (by decide)
  rwa [← Nat.toList_repr]

theorem unbroken_repr (n : Nat) : Unbroken n.repr := by
  intro c hc
  have hdigit := isDigit_of_mem_repr hc
  rw [endsLine, Bool.or_eq_false_iff, decide_eq_false_iff_not, decide_eq_false_iff_not]
  constructor
  · rintro rfl
    exact absurd hdigit (by decide)
  · rintro rfl
    exact absurd hdigit (by decide)

theorem barsShielded_repr (n : Nat) : BarsShielded n.repr := by
  apply barsShielded_of_not_mem
  intro hbar
  exact absurd (isDigit_of_mem_repr hbar) (by decide)

theorem unbroken_actionName (keeps : Bool) : Unbroken (actionName keeps) := by
  rw [← linesOf_eq_singleton_iff]
  cases keeps <;> decide

theorem barsShielded_actionName (keeps : Bool) : BarsShielded (actionName keeps) := by
  apply barsShielded_of_not_mem
  cases keeps <;> decide

/-! ## The tables of the pages -/

/-- A name and how often it was counted, read off a row. What marks the name is dropped. -/
def readCountRow? (unmark : String → String) (row : String) : Option (String × Nat) :=
  match (cellsOf row).map unframe with
  | [name, number] => (Text.natural? number.toList).map fun total => (unmark name, total)
  | _ => none

/-- The number of a pattern, whether it keeps, and its two globs, read off a row. -/
def readPatternRow? (row : String) : Option (Nat × Bool × String × String) :=
  match (cellsOf row).map unframe with
  | [number, action, file, rule] => (Text.natural? number.toList).map fun place =>
      (place, action = actionName true, unframe file, unframe rule)
  | _ => none

theorem ruleRow_eq_tableRow (count : String × Nat) :
    ruleRow count = tableRow [frame '\x60' count.1, toString count.2] := by
  apply String.toList_inj.mp
  simp [ruleRow, tableRow, frame]

theorem levelRow_eq_tableRow (count : String × Nat) :
    levelRow count = tableRow [count.1, toString count.2] := by
  apply String.toList_inj.mp
  simp [levelRow, tableRow, frame]

theorem markdownPatternRow_eq_tableRow (number : Nat) (pattern : Pattern) :
    markdownPatternRow number pattern = tableRow [toString number, actionName pattern.keeps,
      frame '\x60' pattern.file.source, frame '\x60' pattern.rule.source] := by
  apply String.toList_inj.mp
  simp [markdownPatternRow, tableRow, frame]

theorem tabulates_countRow {marked : String} {count : String × Nat} {unmark : String → String}
    (hline : Unbroken marked ↔ Unbroken count.1)
    (hbars : BarsShielded marked ↔ BarsShielded count.1) (hunmark : unmark marked = count.1) :
    Tabulates (tableRow [marked, toString count.2]) [count.1] 2 (readCountRow? unmark) count := by
  apply tabulates_tableRow
  · simp [hline, unbroken_repr]
  · simp [hbars, barsShielded_repr]
  · intro hcells
    have hnumber : Text.natural? (toString count.2).toList = some count.2 :=
      Text.natural?_repr count.2
    simp only [readCountRow?, hcells, hnumber, hunmark, Option.map_some]

/-- A rule is marked by a backtick on both sides. -/
theorem tabulates_ruleRow (count : String × Nat) :
    Tabulates (ruleRow count) [count.1] 2 (readCountRow? unframe) count := by
  rw [ruleRow_eq_tableRow]
  apply tabulates_countRow
  · exact unbroken_frame_iff (by decide)
  · exact barsShielded_frame_iff (by decide) (by decide)
  · exact unframe_frame _ _

theorem tabulates_levelRow (count : String × Nat) :
    Tabulates (levelRow count) [count.1] 2 (readCountRow? id) count := by
  rw [levelRow_eq_tableRow]
  exact tabulates_countRow Iff.rfl Iff.rfl rfl

theorem tabulates_markdownPatternRow (number : Nat) (pattern : Pattern) :
    Tabulates (markdownPatternRow number pattern) [pattern.file.source, pattern.rule.source] 4
      readPatternRow? (number, pattern.keeps, pattern.file.source, pattern.rule.source) := by
  rw [markdownPatternRow_eq_tableRow]
  apply tabulates_tableRow
  · simp [unbroken_frame_iff, unbroken_repr, unbroken_actionName, endsLine]
  · simp [barsShielded_frame_iff, barsShielded_repr, barsShielded_actionName]
  · intro hcells
    have haction : decide (actionName pattern.keeps = actionName true) = pattern.keeps := by
      cases pattern.keeps <;> decide
    have hnumber : Text.natural? (toString number).toList = some number :=
      Text.natural?_repr number
    simp only [readPatternRow?, hcells, hnumber, haction, unframe_frame, Option.map_some]

/-! ## The pages -/

theorem unbroken_append_iff {front back : String} :
    Unbroken (front ++ back) ↔ Unbroken front ∧ Unbroken back := by
  simp [Unbroken, or_imp, forall_and]

/-- A rule can be named so that its row reads as the rows of two rules. -/
theorem linesOf_ruleRow_forged (first second : String) (count number : Nat) :
    linesOf (ruleRow (first ++ "\x60 | " ++ toString count ++ " |\n| \x60" ++ second, number)) =
      linesOf (ruleRow (first, count)) ++ linesOf (ruleRow (second, number)) := by
  rw [← linesOf_append _ (c := '\n') (by decide)]
  apply congrArg linesOf
  apply String.toList_inj.mp
  simp [ruleRow]

/-- The lines of the tables of a tally, each row by itself. -/
def tallyTables (tally : Sarif.Tally) : List String :=
  if tally.byRule = [] then []
  else ["| Rule | Findings |", "|---|---:|"] ++
    (tally.byRule.flatMap fun count => linesOf (ruleRow count)) ++
    ["", "| Level | Findings |", "|---|---:|"] ++
    tally.byLevel.flatMap fun count => linesOf (levelRow count)

theorem linesOf_tallied (tally : Sarif.Tally) (report : Option String) (paper : Paper)
    (verbose : Bool) :
    linesOf ((Answer.tallied tally report).markdown paper verbose) =
      ["## Findings Summary", ""] ++ linesOf ("**Tool:** " ++ tally.toolName) ++
        ["", "**Total:** " ++ toString tally.total, ""] ++ tallyTables tally ++ [""] := by
  have htotal : linesOf ("**Total:** " ++ toString tally.total) =
      ["**Total:** " ++ toString tally.total] := by
    rw [linesOf_eq_singleton_iff, unbroken_append_iff]
    exact ⟨(linesOf_eq_singleton_iff _).mp (by decide), unbroken_repr _⟩
  have htitle : linesOf "## Findings Summary" = ["## Findings Summary"] := by decide
  have hblank : linesOf "" = [""] := by decide
  have htables : (if tally.byRule.isEmpty then []
      else ["| Rule | Findings |", "|---|---:|"] ++ tally.byRule.map ruleRow ++
        ["", "| Level | Findings |", "|---|---:|"] ++ tally.byLevel.map levelRow).flatMap linesOf =
      tallyTables tally := by
    rw [tallyTables]
    by_cases hempty : tally.byRule = []
    · simp [hempty]
    · have hrules : ["| Rule | Findings |", "|---|---:|"].flatMap linesOf =
          ["| Rule | Findings |", "|---|---:|"] := by decide
      have hlevels : ["", "| Level | Findings |", "|---|---:|"].flatMap linesOf =
          ["", "| Level | Findings |", "|---|---:|"] := by decide
      rw [if_neg (by simpa using hempty), if_neg hempty]
      simp only [List.flatMap_append, List.flatMap_map, hrules, hlevels]
  rw [Answer.markdown, linesOf_lines, talliedMarkdown, List.flatMap_append, htables]
  simp only [List.flatMap_cons, List.flatMap_nil, htitle, hblank, htotal]
  simp

theorem linesOf_compiled (filter : String) (patterns : List Pattern) (paper : Paper)
    (verbose : Bool) :
    linesOf ((Answer.compiled filter patterns).markdown paper verbose) =
      ["## Filter Patterns", "", "| # | Action | File | Rule |", "|---:|---|---|---|"] ++
        ((patterns.zipIdx 1).flatMap fun (pattern, number) =>
          linesOf (markdownPatternRow number pattern)) ++ [""] := by
  have hhead : ["## Filter Patterns", "", "| # | Action | File | Rule |",
      "|---:|---|---|---|"].flatMap linesOf =
      ["## Filter Patterns", "", "| # | Action | File | Rule |", "|---:|---|---|---|"] := by decide
  rw [Answer.markdown, linesOf_lines, patternsMarkdown, List.flatMap_append, hhead,
    List.flatMap_map]

/-- Counts are empty only if there was nothing to count. -/
theorem counts_of_eq_nil_iff (names : List String) : Sarif.Counts.of names = [] ↔ names = [] := by
  constructor
  · intro h
    have hsum := Sarif.Counts.sum_of names
    rw [h] at hsum
    exact List.eq_nil_of_length_eq_zero hsum.symm
  · rintro rfl
    rfl

/-- A tally has a table of levels exactly if it has one of rules. -/
theorem byRule_eq_nil_iff (fallback : String) (document : Json.Value) :
    (Sarif.tally fallback document).byRule = [] ↔
      (Sarif.tally fallback document).byLevel = [] := by
  have hsort : ∀ counts : Sarif.Counts, counts.mostFrequentFirst = [] ↔ counts = [] := by
    intro counts
    rw [← List.length_eq_zero_iff, Sarif.Counts.mostFrequentFirst, List.length_mergeSort,
      List.length_eq_zero_iff]
  simp only [Sarif.tally, hsort, counts_of_eq_nil_iff, List.map_eq_nil_iff]

/-- The page of a tally has a row for every rule and every level, and the page of a filter has one
for every pattern. The texts stand in the rows as they are. What they hold decides whether a row
is one line with the cells of its table, and if it has these, what it shows can be read off it. -/
theorem markdown_tabulates (paper : Paper) (verbose : Bool) :
    (∀ fallback document report, let tally := Sarif.tally fallback document
      linesOf ((Answer.tallied tally report).markdown paper verbose) =
        ["## Findings Summary", ""] ++ linesOf ("**Tool:** " ++ tally.toolName) ++
          ["", "**Total:** " ++ toString tally.total, ""] ++ tallyTables tally ++ [""] ∧
      (tally.byRule = [] ↔ tally.byLevel = [])) ∧
    (∀ filter patterns,
      linesOf ((Answer.compiled filter patterns).markdown paper verbose) =
        ["## Filter Patterns", "", "| # | Action | File | Rule |", "|---:|---|---|---|"] ++
          ((patterns.zipIdx 1).flatMap fun (pattern, number) =>
            linesOf (markdownPatternRow number pattern)) ++ [""]) ∧
    (∀ count, Tabulates (ruleRow count) [count.1] 2 (readCountRow? unframe) count) ∧
    (∀ count, Tabulates (levelRow count) [count.1] 2 (readCountRow? id) count) ∧
    ∀ number pattern, Tabulates (markdownPatternRow number pattern)
      [pattern.file.source, pattern.rule.source] 4 readPatternRow?
      (number, pattern.keeps, pattern.file.source, pattern.rule.source) := by
  constructor
  · intro fallback document report
    constructor
    · exact linesOf_tallied _ report paper verbose
    · exact byRule_eq_nil_iff fallback document
  constructor
  · intro filter patterns
    exact linesOf_compiled filter patterns paper verbose
  · exact ⟨tabulates_ruleRow, tabulates_levelRow, tabulates_markdownPatternRow⟩

/-- A glob with a bar adds a cell to its row, and a rule can be named so that its row reads as the
rows of two rules. -/
theorem markdown_tabulates_broken_rows :
    (∃ pattern, Filter.compile "a|b" = .ok [pattern] ∧
      (cellsOf (markdownPatternRow 1 pattern)).length = 5) ∧
    ∃ count, (Sarif.tally "unknown" (.object [("runs", .array [.object [("results", .array
        [.object [("ruleId", .string "a\x60 | 1 |\n| \x60b")]])]])])).byRule = [count] ∧
      linesOf (ruleRow count) = ["| \x60a\x60 | 1 |", "| \x60b\x60 | 1 |"] := by
  constructor
  · refine ⟨_, rfl, ?_⟩
    decide
  · refine ⟨("a\x60 | 1 |\n| \x60b", 1), ?_, ?_⟩
    · exact List.mergeSort_singleton _
    · exact (linesOf_ruleRow_forged "a" "b" 1 1).trans (by decide)

end Suppression.Console
