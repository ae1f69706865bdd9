import Suppression.Proofs.Json.Encoding
import Suppression.Proofs.Json.Legible
import Suppression.Proofs.Sarif.Tasks

/-!
# How tasks fail

What a failure says about the report that a task reads, and what is left of a file that a task
could not write. A path that leads nowhere cannot be opened. A directory can, so that it has no
bytes is found out as late as that some bytes are no document, and the two failures are of one
kind. Spaces that do not fit into memory are missed when the file has been emptied.
-/

namespace Suppression.Sarif

open Files (Tree)
open Json (Value)

/-! ## Reports that cannot be read -/

/-- How reading a report ends. -/
inductive Reading (tree : Tree) (path : String) : Except Failure Value → Prop where
  | nowhere {cause : Files.Cause} (hfind : tree.find path = .error cause) :
      Reading tree path (.error (.unopened path cause))
  | directory {place : Files.Place} (hfind : tree.find path = .ok (place, .directory)) :
      Reading tree path (.error (.unreadable path (.bytes .isDirectory)))
  | noDocument {place : Files.Place} {bytes : List UInt8} {cause : Json.Failure}
      (hfind : tree.find path = .ok (place, .file bytes)) (hread : Json.read bytes = .error cause) :
      Reading tree path (.error (.unreadable path (.document cause)))
  | done {place : Files.Place} {bytes : List UInt8} {report : Value}
      (hfind : tree.find path = .ok (place, .file bytes)) (hread : Json.read bytes = .ok report) :
      Reading tree path (.ok report)

/-- What the failures of a task say about the report that it reads. -/
structure TellsReading (tree : Tree) (path : String) (fails : Failure → Prop) : Prop where
  /-- The path leads nowhere. -/
  unopened_iff : ∀ other cause, fails (.unopened other cause) ↔
    other = path ∧ tree.find path = .error cause
  /-- The path leads to a directory. -/
  bytes_iff : ∀ other cause, fails (.unreadable other (.bytes cause)) ↔
    other = path ∧ cause = .isDirectory ∧ ∃ place, tree.find path = .ok (place, .directory)
  /-- The path leads to a file whose bytes are no document. -/
  document_iff : ∀ other cause, fails (.unreadable other (.document cause)) ↔
    other = path ∧ ∃ bytes, tree.content path = .ok bytes ∧ Json.read bytes = .error cause

theorem TellsReading.congr {tree : Tree} {path : String} {fails others : Failure → Prop}
    (h : TellsReading tree path fails)
    (hunopened : ∀ other cause, others (.unopened other cause) ↔ fails (.unopened other cause))
    (hunreadable : ∀ other cause,
      others (.unreadable other cause) ↔ fails (.unreadable other cause)) :
    TellsReading tree path others where
  unopened_iff := fun other cause => (hunopened other cause).trans (h.unopened_iff other cause)
  bytes_iff := fun other cause => (hunreadable other _).trans (h.bytes_iff other cause)
  document_iff := fun other cause => (hunreadable other _).trans (h.document_iff other cause)

/-- Where a document can be written, its indent decides how that ends. -/
theorem Written.outcome {path : String} {indent : Nat} {document : Value} {tree after : Tree}
    {result : Except Failure Unit} (h : Written path indent document tree result after)
    {place : Files.Place} (hplace : tree.writable path = .ok place) :
    (indent ≤ greatestWidth → result = .ok () ∧
      after.content path = .ok (fileContent indent document)) ∧
    (greatestWidth < indent → result = .error (.tooWide indent) ∧ after.content path = .ok []) ∧
    ∀ other, other ≠ place → after.node? other = tree.node? other := by
  cases h with
  | noOutput hnone =>
      rw [hplace] at hnone
      cases hnone
  | tooWide hfound hwide hafter =>
      rw [hplace] at hfound
      cases hfound
      refine ⟨fun hwidth => absurd hwidth (Nat.not_le.mpr hwide), ?_, hafter.2⟩
      intro _
      exact ⟨rfl, hafter.content hplace⟩
  | done hfound hwidth hafter hcontent =>
      rw [hplace] at hfound
      cases hfound
      refine ⟨?_, fun hwide => absurd hwidth (Nat.not_le.mpr hwide), hafter.2⟩
      intro _
      exact ⟨rfl, hcontent⟩

/-- With a good filter, a report and an output that can be made, filtering writes the output in
full, unless the spaces of a level do not fit into memory. Then it leaves the output empty, which
it may not have been, and it may have been the report. -/
theorem filterFile_width {input output : String} {filtering : Settings.Filtering}
    {patterns : List Pattern} {report : Value} {place : Files.Place} {desk after : Desk}
    {result : Except Failure Stats} (hfilter : Filter.compile filtering.patterns = .ok patterns)
    (hread : read desk.tree input = .ok report)
    (hplace : desk.tree.writable output = .ok place)
    (hrun : (filterFile input output filtering).run.run desk = (result, after)) :
    (filtering.indent ≤ greatestWidth →
      result = .ok (pass patterns report).2.stats ∧ after.tree.content output =
        .ok (fileContent filtering.indent (pass patterns report).1)) ∧
    (greatestWidth < filtering.indent →
      result = .error (.tooWide filtering.indent) ∧ after.tree.content output = .ok []) ∧
    (∀ other, other ≠ place → after.tree.node? other = desk.tree.node? other) ∧
    ((∃ stats, result = .ok stats) ∨ after.tree.content output = desk.tree.content output ↔
      filtering.indent ≤ greatestWidth ∨ desk.tree.content output = .ok []) := by
  obtain ⟨written, hwritten, rfl⟩ :=
    (fileFiltered_of_run hrun).written_of_read_eq_ok hfilter hread
  obtain ⟨hdone, hwide, hothers⟩ := hwritten.outcome hplace
  rcases Nat.lt_or_ge greatestWidth filtering.indent with htooWide | hwidth
  · obtain ⟨rfl, hempty⟩ := hwide htooWide
    have hnot : ¬ filtering.indent ≤ greatestWidth := Nat.not_le.mpr htooWide
    refine ⟨fun hwidth => absurd hwidth hnot, fun _ => ⟨rfl, hempty⟩, hothers, ?_⟩
    simp [hnot, hempty, Except.map, eq_comm]
  · obtain ⟨rfl, hcontent⟩ := hdone hwidth
    refine ⟨fun _ => ⟨rfl, hcontent⟩, fun hwide => absurd hwidth (Nat.not_le.mpr hwide), hothers, ?_⟩
    simp [hwidth, Except.map]

/-- A directory with one file, which holds a report without runs. -/
def noRunsTree : Tree := ⟨[(["r"], .file (Text.encode "\x7b\x7d"))]⟩

/-- The greatest width that fits into memory is good enough. -/
theorem filterFile_width_greatest :
    Filter.compile "" = .ok [] ∧ read noRunsTree "r" = .ok (.object []) ∧
      noRunsTree.writable "r" = .ok ["r"] ∧
      ((filterFile "r" "r" { patterns := "", indent := greatestWidth }).run.run
        { tree := noRunsTree }).1 = .ok (pass [] (.object [])).2.stats := by
  have hfilter : Filter.compile "" = .ok [] := rfl
  have hread : read noRunsTree "r" = .ok (.object []) := rfl
  have hplace : noRunsTree.writable "r" = .ok ["r"] := rfl
  generalize hrun : (filterFile "r" "r" { patterns := "", indent := greatestWidth }).run.run
    { tree := noRunsTree } = outcome
  obtain ⟨result, after⟩ := outcome
  obtain ⟨hdone, -⟩ := @filterFile_width "r" "r" { patterns := "", indent := greatestWidth }
    _ _ _ { tree := noRunsTree } _ _ hfilter hread hplace hrun
  exact ⟨hfilter, hread, hplace, (hdone (Nat.le_refl _)).1⟩

/-- A width that is one greater, which a word of 64 bits can hold, empties the report that is
filtered in place. -/
theorem filterFile_width_one_greater :
    greatestWidth + 1 < Decimal.wordSize ∧
      noRunsTree.content "r" = .ok (Text.encode "\x7b\x7d") ∧
      ∃ after : Desk, (filterFile "r" "r" { patterns := "", indent := greatestWidth + 1 }).run.run
        { tree := noRunsTree } = (.error (.tooWide (greatestWidth + 1)), after) ∧
        after.tree.content "r" = .ok [] := by
  have hfilter : Filter.compile "" = .ok [] := rfl
  have hread : read noRunsTree "r" = .ok (.object []) := rfl
  have hplace : noRunsTree.writable "r" = .ok ["r"] := rfl
  refine ⟨by decide, rfl, ?_⟩
  generalize hrun : (filterFile "r" "r" { patterns := "", indent := greatestWidth + 1 }).run.run
    { tree := noRunsTree } = outcome
  obtain ⟨result, after⟩ := outcome
  obtain ⟨written, hwritten, rfl⟩ :=
    (fileFiltered_of_run hrun).written_of_read_eq_ok hfilter hread
  obtain ⟨-, hwide, -⟩ := hwritten.outcome hplace
  obtain ⟨rfl, hempty⟩ := hwide (Nat.lt_succ_self greatestWidth)
  exact ⟨after, rfl, hempty⟩

end Suppression.Sarif
