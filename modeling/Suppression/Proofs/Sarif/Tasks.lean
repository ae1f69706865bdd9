import Suppression.Proofs.Files.Writing
import Suppression.Proofs.Sarif.Passes
import Suppression.Sarif.Desk

/-!
# What tasks do to files

Filtering a file fails before it touches a file, or it writes one. A bad filter comes
before a bad report, and a bad report before an output that cannot be made. What is
written depends on the files as they were before, so a file may be filtered in place.
-/

namespace Suppression.Sarif

open Files (Tree)
open Json (Value)

/-! ## Runs of tasks -/

namespace Task

theorem run_bind {α β : Type} (task : Task α) (next : α → Task β) (desk : Desk) :
    (task >>= next).run.run desk =
      match task.run.run desk with
      | (.ok value, after) => (next value).run.run after
      | (.error failure, after) => (.error failure, after) := by
  have hrun : (task >>= next).run.run desk =
      (ExceptT.bindCont next (task.run.run desk).1).run (task.run.run desk).2 := rfl
  rw [hrun]
  rcases task.run.run desk with ⟨result, after⟩
  cases result <;> rfl

theorem run_report (entries : List Log.Entry) (desk : Desk) :
    (report entries).run.run desk = (.ok (), { desk with log := desk.log ++ entries }) := rfl

theorem run_attempt {α ε : Type} (failure : ε → Failure) (result : Except ε α) (desk : Desk) :
    (attempt failure result).run.run desk = (result.mapError failure, desk) := by
  cases result <;> rfl

end Task

theorem read_eq_ok_iff {tree : Tree} {path : String} {report : Value} :
    read tree path = .ok report ↔
      ∃ bytes, tree.content path = .ok bytes ∧ Json.read bytes = .ok report := by
  constructor
  · intro h
    obtain ⟨opened, hopened, h⟩ := exists_of_bind_eq_ok h
    obtain ⟨bytes, hbytes, h⟩ := exists_of_bind_eq_ok h
    refine ⟨bytes, ?_, mapError_eq_ok_iff.mp h⟩
    rw [Tree.content, mapError_eq_ok_iff.mp hopened]
    exact mapError_eq_ok_iff.mp hbytes
  · rintro ⟨bytes, hcontent, hreport⟩
    obtain ⟨opened, hopened, hbytes⟩ := exists_of_bind_eq_ok hcontent
    rw [read, hopened]
    change opened.bytes.mapError _ >>= _ = _
    rw [hbytes]
    exact mapError_eq_ok_iff.mpr hreport

/-- Reading fails to open the file, or to find an object in it. -/
theorem exists_of_read_eq_error {tree : Tree} {path : String} {failure : Failure}
    (h : read tree path = .error failure) :
    (∃ cause, failure = .unopened path cause) ∨ ∃ cause, failure = .unreadable path cause := by
  unfold read at h
  cases hopen : tree.openNode path with
  | error cause =>
      rw [hopen] at h
      cases h
      exact .inl ⟨cause, rfl⟩
  | ok opened =>
      right
      rw [hopen] at h
      change (opened.bytes.mapError _ >>= _) = _ at h
      cases hbytes : opened.bytes with
      | error cause =>
          rw [hbytes] at h
          cases h
          exact ⟨_, rfl⟩
      | ok bytes =>
          rw [hbytes] at h
          obtain ⟨cause, -, hfailure⟩ := mapError_eq_error_iff.mp h
          exact ⟨_, hfailure.symm⟩

theorem run_readFile (path : String) (desk : Desk) :
    (readFile path).run.run desk =
      match read desk.tree path with
      | .ok report =>
          (.ok report, { desk with
            log := desk.log ++ [Log.debug .reports ("Read sarif document from " ++ path)] })
      | .error failure => (.error failure, desk) := by
  have hget : (get : Task Desk).run.run desk = (.ok desk, desk) := rfl
  rw [readFile, Task.run_bind, hget]
  change (Task.attempt id (read desk.tree path) >>= _).run.run desk = _
  rw [Task.run_bind, Task.run_attempt]
  cases read desk.tree path <;> rfl

theorem run_tallyFile (input : String) (reporting : Settings.Reporting) (desk : Desk) :
    (tallyFile input reporting).run.run desk =
      match read desk.tree input with
      | .ok report =>
          (.ok (tally reporting.fallback report), { desk with
            log := desk.log ++ [Log.debug .reports ("Read sarif document from " ++ input)] })
      | .error failure => (.error failure, desk) := by
  rw [tallyFile, Task.run_bind, run_readFile]
  cases read desk.tree input <;> rfl

/-! ## Writing a document -/

/-- How writing a document ends, and the files it leaves. Spaces that do not fit into
memory are missed after the file has been made. -/
inductive Written (path : String) (indent : Nat) (document : Value) (tree : Tree) :
    Except Failure Unit → Tree → Prop where
  | noOutput {cause : Files.Cause} (hplace : tree.writable path = .error cause) :
      Written path indent document tree (.error (.unwritable path cause)) tree
  | tooWide {place : Files.Place} {after : Tree} (hplace : tree.writable path = .ok place)
      (hwide : greatestWidth < indent) (hafter : Tree.Replaced place (.file []) tree after) :
      Written path indent document tree (.error (.tooWide indent)) after
  | done {place : Files.Place} {after : Tree} (hplace : tree.writable path = .ok place)
      (hwidth : indent ≤ greatestWidth)
      (hafter : Tree.Replaced place (.file (fileContent indent document)) tree after)
      (hcontent : after.content path = .ok (fileContent indent document)) :
      Written path indent document tree (.ok ()) after

theorem run_writeFile (path : String) (indent : Nat) (document : Value) (desk : Desk) :
    (writeFile path indent document).run.run desk =
      match desk.tree.writable path with
      | .ok place =>
          if greatestWidth < indent then
            (.error (.tooWide indent), { desk with tree := desk.tree.set place (.file []) })
          else
            (.ok (), { desk with
              tree := (desk.tree.set place (.file [])).set place
                (.file (fileContent indent document)) })
      | .error cause => (.error (.unwritable path cause), desk) := by
  have hget : (get : Task Desk).run.run desk = (.ok desk, desk) := rfl
  rw [writeFile, Task.run_bind, hget]
  change (Task.attempt (.unwritable path) (desk.tree.create path) >>= _).run.run desk = _
  rw [Task.run_bind, Task.run_attempt]
  unfold Tree.create
  cases desk.tree.writable path with
  | error cause => rfl
  | ok place =>
      by_cases hwide : greatestWidth < indent
      · simp only [hwide, if_true]
        rfl
      · simp only [hwide, if_false]
        rfl

theorem written_of_run {path : String} {indent : Nat} {document : Value} {desk after : Desk}
    {result : Except Failure Unit}
    (h : (writeFile path indent document).run.run desk = (result, after)) :
    Written path indent document desk.tree result after.tree := by
  rw [run_writeFile] at h
  cases hplace : desk.tree.writable path with
  | error cause =>
      rw [hplace] at h
      cases h
      exact .noOutput hplace
  | ok place =>
      rw [hplace] at h
      dsimp only at h
      obtain ⟨-, -, -, -, -, hnode⟩ := Tree.writable_eq_ok_iff.mp hplace
      have hmade := Tree.set_replaced hnode (.file [])
      by_cases hwide : greatestWidth < indent
      · rw [if_pos hwide] at h
        cases h
        exact .tooWide hplace hwide hmade
      · rw [if_neg hwide] at h
        cases h
        have hagain : (desk.tree.set place (.file [])).writable path = .ok place :=
          Tree.writable_set hnode hplace
        obtain ⟨-, -, -, -, -, hfile⟩ := Tree.writable_eq_ok_iff.mp hagain
        exact .done hplace (Nat.not_lt.mp hwide) (hmade.trans (Tree.set_replaced hfile _))
          (Tree.content_set hagain _)

/-! ## Filtering a file -/

/-- How filtering a file ends, and the files it leaves. -/
inductive FileFiltered (input output : String) (filtering : Settings.Filtering) (tree : Tree) :
    Except Failure Stats → Tree → Prop where
  | badFilter {cause : Pattern.Error} (hfilter : Filter.compile filtering.patterns = .error cause) :
      FileFiltered input output filtering tree (.error (.filter cause)) tree
  | noReport {patterns : List Pattern} {failure : Failure}
      (hfilter : Filter.compile filtering.patterns = .ok patterns)
      (hread : read tree input = .error failure) :
      FileFiltered input output filtering tree (.error failure) tree
  | passed {patterns : List Pattern} {report : Value} {result : Except Failure Unit} {after : Tree}
      (hfilter : Filter.compile filtering.patterns = .ok patterns)
      (hread : read tree input = .ok report)
      (hwritten : Written output filtering.indent (pass patterns report).1 tree result after) :
      FileFiltered input output filtering tree
        (result.map fun _ => (pass patterns report).2.stats) after

theorem fileFiltered_of_run {input output : String} {filtering : Settings.Filtering}
    {desk after : Desk} {result : Except Failure Stats}
    (h : (filterFile input output filtering).run.run desk = (result, after)) :
    FileFiltered input output filtering desk.tree result after.tree := by
  rw [filterFile, Task.run_bind, Task.run_report] at h
  dsimp only at h
  rw [Task.run_bind, Task.run_attempt] at h
  cases hfilter : Filter.compile filtering.patterns with
  | error cause =>
      rw [hfilter] at h
      cases h
      exact .badFilter hfilter
  | ok patterns =>
      rw [hfilter] at h
      change (readFile input >>= _ : Task Stats).run.run _ = _ at h
      rw [Task.run_bind, run_readFile] at h
      dsimp only at h
      cases hread : read desk.tree input with
      | error failure =>
          rw [hread] at h
          cases h
          exact .noReport hfilter hread
      | ok report =>
          rw [hread] at h
          dsimp only at h
          rw [Task.run_bind, Task.run_report] at h
          dsimp only at h
          rw [Task.run_bind] at h
          generalize hwrite : (writeFile output filtering.indent
            (pass patterns report).1).run.run _ = outcome at h
          obtain ⟨written, left⟩ := outcome
          have hwritten := written_of_run hwrite
          -- What is reported in the end changes no file.
          cases written with
          | error failure =>
              cases h
              exact .passed hfilter hread hwritten
          | ok value =>
              cases h
              exact .passed hfilter hread hwritten

namespace FileFiltered

variable {input output : String} {filtering : Settings.Filtering} {tree after : Tree}
  {result : Except Failure Stats} (h : FileFiltered input output filtering tree result after)

include h

theorem eq_filter_iff (cause : Pattern.Error) :
    result = .error (.filter cause) ↔ Filter.compile filtering.patterns = .error cause := by
  cases h with
  | badFilter hfilter => simp [hfilter]
  | noReport hfilter hread =>
      rcases exists_of_read_eq_error hread with ⟨cause, rfl⟩ | ⟨cause, rfl⟩ <;> simp [hfilter]
  | passed hfilter _ hwritten => cases hwritten <;> simp [hfilter, Except.map]

theorem eq_of_read_eq_error {patterns : List Pattern} {failure : Failure}
    (hpatterns : Filter.compile filtering.patterns = .ok patterns)
    (hfailure : read tree input = .error failure) : result = .error failure := by
  cases h with
  | badFilter hfilter =>
      rw [hpatterns] at hfilter
      cases hfilter
  | noReport _ hread =>
      rw [hfailure] at hread
      cases hread
      rfl
  | passed _ hread =>
      rw [hfailure] at hread
      cases hread

theorem written_of_read_eq_ok {patterns : List Pattern} {report : Value}
    (hpatterns : Filter.compile filtering.patterns = .ok patterns)
    (hreport : read tree input = .ok report) :
    ∃ written, Written output filtering.indent (pass patterns report).1 tree written after ∧
      result = written.map fun _ => (pass patterns report).2.stats := by
  cases h with
  | badFilter hfilter =>
      rw [hpatterns] at hfilter
      cases hfilter
  | noReport _ hread =>
      rw [hreport] at hread
      cases hread
  | passed hfilter hread hwritten =>
      rw [hpatterns] at hfilter
      rw [hreport] at hread
      cases hfilter
      cases hread
      exact ⟨_, hwritten, rfl⟩

theorem eq_unwritable_iff (path : String) (cause : Files.Cause) :
    result = .error (.unwritable path cause) ↔
      path = output ∧ (∃ patterns, Filter.compile filtering.patterns = .ok patterns) ∧
        (∃ report, read tree input = .ok report) ∧ tree.writable output = .error cause := by
  cases h with
  | badFilter hfilter => simp [hfilter]
  | noReport _ hread =>
      rcases exists_of_read_eq_error hread with ⟨cause, rfl⟩ | ⟨cause, rfl⟩ <;> simp [hread]
  | passed hfilter hread hwritten =>
      cases hwritten with
      | noOutput hplace => simp [hfilter, hread, hplace, Except.map, eq_comm]
      | tooWide hplace => simp [hplace, Except.map]
      | done hplace => simp [hplace, Except.map]

theorem exists_of_eq_ok {stats : Stats} (hstats : result = .ok stats) :
    ∃ patterns report place, Filter.compile filtering.patterns = .ok patterns ∧
      read tree input = .ok report ∧ tree.writable output = .ok place := by
  cases h with
  | badFilter => cases hstats
  | noReport => cases hstats
  | passed hfilter hread hwritten =>
      cases hwritten with
      | noOutput => cases hstats
      | tooWide => cases hstats
      | done hplace => exact ⟨_, _, _, hfilter, hread, hplace⟩

/-- A file is changed only where it is written, unless the spaces do not fit into memory. -/
theorem eq_of_eq_error (hwidth : filtering.indent ≤ greatestWidth) {failure : Failure}
    (hfailure : result = .error failure) : after = tree := by
  cases h with
  | badFilter => rfl
  | noReport => rfl
  | passed _ _ hwritten =>
      cases hwritten with
      | noOutput => rfl
      | tooWide _ hwide => exact absurd hwidth (Nat.not_le.mpr hwide)
      | done => cases hfailure

end FileFiltered

/-- A failure to filter a file changes no file. It is due to the filter if that is bad, else to
the report, and to the output only if both are good. Otherwise the output holds what the filter
leaves of the report that the input held before, and nothing else has changed. -/
theorem filterFile_atomic {filtering : Settings.Filtering}
    (hwidth : filtering.indent ≤ greatestWidth) {input output : String} {desk after : Desk}
    {result : Except Failure Stats}
    (hrun : (filterFile input output filtering).run.run desk = (result, after)) :
    (∀ failure, result = .error failure → after.tree = desk.tree) ∧
    (∀ cause, result = .error (.filter cause) ↔
      Filter.compile filtering.patterns = .error cause) ∧
    (∀ patterns failure, Filter.compile filtering.patterns = .ok patterns →
      read desk.tree input = .error failure → result = .error failure ∧
        ((∃ cause, failure = .unopened input cause) ∨ ∃ cause, failure = .unreadable input cause)) ∧
    (∀ path cause, result = .error (.unwritable path cause) ↔
      path = output ∧ (∃ patterns, Filter.compile filtering.patterns = .ok patterns) ∧
        (∃ report, read desk.tree input = .ok report) ∧
        desk.tree.writable output = .error cause) ∧
    (∀ stats, result = .ok stats → ∃ patterns report place,
      Filter.compile filtering.patterns = .ok patterns ∧ read desk.tree input = .ok report ∧
        desk.tree.writable output = .ok place) ∧
    (∀ patterns bytes report place, Filter.compile filtering.patterns = .ok patterns →
      desk.tree.content input = .ok bytes → Json.read bytes = .ok report →
      desk.tree.writable output = .ok place →
        result = .ok (pass patterns report).2.stats ∧
        after.tree.content output = .ok (Text.encode
          ((pass patterns report).1.indented filtering.indent ++ "\n")) ∧
        ∀ other, other ≠ place → after.tree.node? other = desk.tree.node? other) := by
  have houtcome := fileFiltered_of_run hrun
  refine ⟨fun failure => houtcome.eq_of_eq_error hwidth, houtcome.eq_filter_iff, ?_,
    houtcome.eq_unwritable_iff, fun stats => houtcome.exists_of_eq_ok, ?_⟩
  · intro patterns failure hfilter hread
    exact ⟨houtcome.eq_of_read_eq_error hfilter hread, exists_of_read_eq_error hread⟩
  · intro patterns bytes report place hfilter hbytes hreport hplace
    have hread : read desk.tree input = .ok report :=
      read_eq_ok_iff.mpr ⟨bytes, hbytes, hreport⟩
    obtain ⟨written, hwritten, rfl⟩ := houtcome.written_of_read_eq_ok hfilter hread
    generalize after.tree = left at hwritten ⊢
    cases hwritten with
    | noOutput hnone =>
        rw [hplace] at hnone
        cases hnone
    | tooWide _ hwide => exact absurd hwidth (Nat.not_le.mpr hwide)
    | done hfound _ hafter hcontent =>
        rw [hplace] at hfound
        cases hfound
        exact ⟨rfl, hcontent, hafter.2⟩

/-- A directory with one file, which holds a report with one finding. -/
def oneFindingTree : Tree := ⟨[(["r"], .file (Text.encode oneFinding.compact))]⟩

/-- The file is filtered in place, and its finding removed. -/
theorem filterFile_atomic_in_place :
    2 ≤ greatestWidth ∧
      ((filterFile "r" "r" { patterns := "-**", indent := 2 }).run.run
        { tree := oneFindingTree }).2.tree.content "r" =
        .ok (Text.encode
          ((Value.object [("runs", .array [.object [("results", .array [])]])]).indented 2 ++
            "\n")) := by
  have hwidth : 2 ≤ greatestWidth := by decide
  have hfilter : Filter.compile "-**" = .ok [everything false] := rfl
  have hbytes : oneFindingTree.content "r" = .ok (Text.encode oneFinding.compact) := rfl
  have hreport : Json.read (Text.encode oneFinding.compact) = .ok oneFinding := rfl
  have hplace : oneFindingTree.writable "r" = .ok ["r"] := rfl
  have hleft : (pass [everything false] oneFinding).1 =
      .object [("runs", .array [.object [("results", .array [])]])] := rfl
  generalize hrun : (filterFile "r" "r" { patterns := "-**", indent := 2 }).run.run
    { tree := oneFindingTree } = outcome
  obtain ⟨result, after⟩ := outcome
  obtain ⟨-, -, -, -, -, hdone⟩ := filterFile_atomic hwidth hrun
  obtain ⟨-, hcontent, -⟩ := hdone _ _ _ _ hfilter hbytes hreport hplace
  rw [hleft] at hcontent
  exact ⟨hwidth, hcontent⟩

end Suppression.Sarif
