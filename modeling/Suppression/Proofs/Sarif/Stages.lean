import Suppression.Proofs.Json.RoundTrip
import Suppression.Proofs.Sarif.Tasks

/-!
# Stages through files

Filters can be applied in turn to files, each reading what the one before wrote, or in
memory, with one file read and one written. Both give the same counts and the same last
file, because a report that is written is read back. Its numbers have to be whole: other
numbers may be read as their neighbours.
-/

namespace Suppression.Sarif

open Files (Tree)
open Json (Legible Number Value depthLimit)

/-! ## Passes and what can be read -/

section Legibility

variable {good : Number → Prop} {depth : Nat}

theorem exists_legible_of_get? {key : String} {value found : Value}
    (h : Legible good depth value) (hfound : value.get? key = some found) :
    ∃ inner, depth = inner + 1 ∧ Legible good inner found := by
  obtain ⟨fields, rfl, hlookup⟩ := exists_fields_of_get? hfound
  obtain ⟨front, back, rfl, -⟩ := List.lookup_eq_some_iff.mp hlookup
  cases h with
  | object hkeys hfields =>
      have hmem : (key, found) ∈ front ++ (key, found) :: back :=
        List.mem_append_right front List.mem_cons_self
      exact ⟨_, rfl, hfields _ hmem⟩

theorem legible_withField {key : String} {value new : Value} (h : Legible good (depth + 1) value)
    (hnew : Legible good depth new) : Legible good (depth + 1) (withField key new value) := by
  cases value with
  | object fields => exact h.putField key hnew
  | _ => exact h

/-- Items that are left of an array are as legible as it was. -/
theorem legible_withField_array {key : String} {value : Value} {items left : List Value}
    (h : Legible good depth value) (hitems : value.get? key = some (.array items))
    (hleft : ∀ inner, (∀ item ∈ items, Legible good inner item) →
      ∀ item ∈ left, Legible good inner item) :
    Legible good depth (withField key (.array left) value) := by
  obtain ⟨inner, rfl, harray⟩ := exists_legible_of_get? h hitems
  cases harray with
  | array hall => exact legible_withField h (.array (hleft _ hall))

theorem legible_mapItems {key : String} {rewrite : List Value → List Value} {value : Value}
    (h : Legible good depth value)
    (hrewrite : ∀ inner items, (∀ item ∈ items, Legible good inner item) →
      ∀ item ∈ rewrite items, Legible good inner item) :
    Legible good depth (mapItems key rewrite value) := by
  unfold mapItems
  split
  next items hitems => exact legible_withField_array h hitems fun inner => hrewrite inner items
  next => exact h

theorem legible_siftResult {judge : Judge} {result left : Value} (h : Legible good depth result)
    (hleft : siftResult judge result = some left) : Legible good depth left := by
  unfold siftResult at hleft
  split at hleft
  next rule locations hshape =>
    obtain ⟨-, hlocations, -⟩ := shape_eq_decidable_iff.mp hshape
    dsimp only at hleft
    split at hleft
    next => cases hleft
    next =>
      cases hleft
      refine legible_withField_array h hlocations fun inner hall location hlocation => ?_
      exact hall location (List.mem_of_mem_filter hlocation)
  next =>
    cases hleft
    exact h

theorem legible_siftRun {judge : Judge} {run : Value} (h : Legible good depth run) :
    Legible good depth (siftRun judge run) := by
  refine legible_mapItems h fun inner results hall left hleft => ?_
  obtain ⟨result, hresult, hsift⟩ := List.mem_filterMap.mp hleft
  exact legible_siftResult (hall result hresult) hsift

theorem legible_sift {judge : Judge} {report : Value} (h : Legible good depth report) :
    Legible good depth (sift judge report) := by
  refine legible_mapItems h fun inner runs hall left hleft => ?_
  obtain ⟨run, hrun, rfl⟩ := List.mem_map.mp hleft
  exact legible_siftRun (hall run hrun)

end Legibility

/-- The report is an object that is read back when it is written. -/
structure Storable (report : Value) : Prop where
  legible : Legible Number.ReadBack depthLimit report
  isObject : report.isObject

theorem Storable.passes {report : Value} (h : Storable report) (filters : List (List Pattern)) :
    Storable (passes filters report).1 := by
  rw [passes_fst]
  refine ⟨legible_sift h.legible, ?_⟩
  rw [sift, isObject_mapItems]
  exact h.isObject

theorem Storable.pass {report : Value} (h : Storable report) (patterns : List Pattern) :
    Storable (pass patterns report).1 :=
  h.passes [patterns]

theorem Storable.read_fileContent {report : Value} (h : Storable report) (indent : Nat) :
    Json.read (fileContent indent report) = .ok report :=
  Json.read_encode_indented indent h.legible h.isObject

/-- A report that was read can be stored if all its numbers are whole. -/
theorem storable_of_read {bytes : List UInt8} {report : Value} (h : Json.read bytes = .ok report)
    (hwhole : ∀ number ∈ report.numbers, number.IsWhole) : Storable report := by
  obtain ⟨hlegible, hobject⟩ := Json.legible_of_read h
  refine ⟨hlegible.of_numbers fun number hnumber hfits => ?_, hobject⟩
  exact Json.readBack_of_fits hfits (hwhole number hnumber)

/-! ## Tasks that succeed -/

/-- On these files the task gives a value, whatever was reported before, and the files it leaves
are as described. -/
def Task.Succeeds {α : Type} (task : Task α) (tree : Tree) (value : α) (left : Tree → Prop) :
    Prop :=
  ∀ log, ∃ after, task.run.run ⟨tree, log⟩ = (.ok value, after) ∧ left after.tree

theorem succeeds_pure {α : Type} (value : α) {tree : Tree} {left : Tree → Prop} (h : left tree) :
    Task.Succeeds (pure value) tree value left :=
  fun _ => ⟨_, rfl, h⟩

theorem Task.Succeeds.bind {α β : Type} {task : Task α} {next : α → Task β} {tree : Tree}
    {value : α} {last : β} {between left : Tree → Prop} (h : task.Succeeds tree value between)
    (hnext : ∀ after, between after → (next value).Succeeds after last left) :
    (task >>= next).Succeeds tree last left := by
  intro log
  obtain ⟨⟨after, entries⟩, hrun, hbetween⟩ := h log
  rw [Task.run_bind, hrun]
  exact hnext after hbetween entries

/-- A task that changes no file comes first. -/
theorem Task.Succeeds.bind_same {α β : Type} {task : Task α} {next : α → Task β} {tree : Tree}
    {value : α} {last : β} {left : Tree → Prop} (h : task.Succeeds tree value (· = tree))
    (hnext : (next value).Succeeds tree last left) : (task >>= next).Succeeds tree last left := by
  refine h.bind ?_
  rintro _ rfl
  exact hnext

theorem succeeds_report (entries : List Log.Entry) (tree : Tree) :
    (Task.report entries).Succeeds tree () (· = tree) :=
  fun _ => ⟨_, rfl, rfl⟩

theorem succeeds_attempt {α ε : Type} {failure : ε → Failure} {result : Except ε α} {value : α}
    (h : result = .ok value) (tree : Tree) :
    (Task.attempt failure result).Succeeds tree value (· = tree) := by
  subst h
  exact succeeds_pure value rfl

theorem succeeds_readFile {path : String} {tree : Tree} {report : Value}
    (h : read tree path = .ok report) : (readFile path).Succeeds tree report (· = tree) := by
  intro log
  rw [run_readFile, h]
  exact ⟨_, rfl, rfl⟩

/-- The file at a path has been written, and no path is lost that could be written to. -/
structure Filled (path : String) (content : List UInt8) (before after : Tree) : Prop where
  content : after.content path = .ok content
  writable : ∀ other place, before.writable other = .ok place → after.writable other = .ok place

theorem succeeds_writeFile {path : String} {indent : Nat} {tree : Tree} {place : Files.Place}
    (hplace : tree.writable path = .ok place) (hwidth : indent ≤ greatestWidth)
    (document : Value) :
    (writeFile path indent document).Succeeds tree ()
      (Filled path (fileContent indent document) tree) := by
  intro log
  obtain ⟨-, -, -, -, -, hnode⟩ := Tree.writable_eq_ok_iff.mp hplace
  have hmade : (tree.set place (.file [])).writable path = .ok place :=
    Tree.writable_set hnode hplace
  obtain ⟨-, -, -, -, -, hempty⟩ := Tree.writable_eq_ok_iff.mp hmade
  rw [run_writeFile, hplace]
  dsimp only
  rw [if_neg (Nat.not_lt.mpr hwidth)]
  refine ⟨_, rfl, Tree.content_set hmade _, fun other target hother => ?_⟩
  exact Tree.writable_set hempty (Tree.writable_set hnode hother)

theorem succeeds_filterFile {input output : String} {filtering : Settings.Filtering}
    {patterns : List Pattern} {report : Value} {tree : Tree} {place : Files.Place}
    (hfilter : Filter.compile filtering.patterns = .ok patterns)
    (hread : read tree input = .ok report) (hplace : tree.writable output = .ok place)
    (hwidth : filtering.indent ≤ greatestWidth) :
    (filterFile input output filtering).Succeeds tree (pass patterns report).2.stats
      (Filled output (fileContent filtering.indent (pass patterns report).1) tree) := by
  refine (succeeds_report _ tree).bind_same ?_
  refine (succeeds_attempt hfilter tree).bind_same ?_
  refine (succeeds_readFile hread).bind_same ?_
  refine (succeeds_report _ tree).bind_same ?_
  refine (succeeds_writeFile hplace hwidth _).bind fun after hafter => ?_
  exact (succeeds_report _ after).bind_same (succeeds_pure _ hafter)

/-! ## Stages -/

/-- A filter, and the file that is written with what it leaves. -/
structure Stage where
  /-- The file that is written. -/
  output : String
  /-- The filter, and the width of the written file. -/
  filtering : Settings.Filtering

/-- Filter a report in stages. Each of them reads the file that the one before wrote. -/
def filterStages : String → List Stage → Task (List Stats)
  | _, [] => return []
  | input, stage :: stages => do
      let stats ← filterFile input stage.output stage.filtering
      return stats :: (← filterStages stage.output stages)

/-- Read a report, apply filters to it in turn, and write what is left. -/
def filterOnce (input : String) (filters : List (List Pattern)) (output : String) (indent : Nat) :
    Task (List Stats) := do
  let report ← readFile input
  let (left, stats) := passes filters report
  writeFile output indent left
  return stats

theorem succeeds_filterOnce {input output : String} {indent : Nat} {report : Value} {tree : Tree}
    {place : Files.Place} (hread : read tree input = .ok report)
    (hplace : tree.writable output = .ok place) (hwidth : indent ≤ greatestWidth)
    (filters : List (List Pattern)) :
    (filterOnce input filters output indent).Succeeds tree (passes filters report).2
      (Filled output (fileContent indent (passes filters report).1) tree) := by
  refine (succeeds_readFile hread).bind_same ?_
  exact (succeeds_writeFile hplace hwidth _).bind fun after hafter => succeeds_pure _ hafter

/-- What one stage writes is what the next one reads, so the passes go on from there. -/
theorem succeeds_filterStages {input : String} {stages : List Stage}
    {filters : List (List Pattern)} {report : Value} {tree : Tree}
    (hfilters : stages.mapM (fun stage => Filter.compile stage.filtering.patterns) = .ok filters)
    (hwidths : ∀ stage ∈ stages, stage.filtering.indent ≤ greatestWidth)
    (hplaces : ∀ stage ∈ stages, ∃ place, tree.writable stage.output = .ok place)
    (hread : read tree input = .ok report) (hreport : Storable report) :
    (filterStages input stages).Succeeds tree (passes filters report).2 fun after =>
      (stages = [] → after = tree) ∧ ∀ last ∈ stages.getLast?, after.content last.output =
        .ok (fileContent last.filtering.indent (passes filters report).1) := by
  induction stages generalizing input filters report tree with
  | nil =>
      cases hfilters
      refine succeeds_pure _ ⟨fun _ => rfl, ?_⟩
      rintro _ ⟨⟩
  | cons stage stages ih =>
      rw [List.mapM_cons] at hfilters
      obtain ⟨patterns, hpatterns, hfilters⟩ := exists_of_bind_eq_ok hfilters
      obtain ⟨filters, hrest, hfilters⟩ := exists_of_bind_eq_ok hfilters
      cases hfilters
      obtain ⟨hwidth, hwidths⟩ := List.forall_mem_cons.mp hwidths
      obtain ⟨⟨place, hplace⟩, hplaces⟩ := List.forall_mem_cons.mp hplaces
      refine (succeeds_filterFile hpatterns hread hplace hwidth).bind fun after hafter => ?_
      have hnext : read after stage.output = .ok (pass patterns report).1 :=
        read_eq_ok_iff.mpr ⟨_, hafter.content, (hreport.pass patterns).read_fileContent _⟩
      have hothers : ∀ other ∈ stages, ∃ place, after.writable other.output = .ok place :=
        fun other hother => (hplaces other hother).imp (hafter.writable other.output)
      refine (ih hrest hwidths hothers hnext (hreport.pass patterns)).bind ?_
      rintro final ⟨hnil, hlast⟩
      refine succeeds_pure _ ⟨fun h => absurd h (List.cons_ne_nil _ _), ?_⟩
      -- The last file is that of this stage only if no other stage comes behind it.
      cases stages with
      | nil =>
          cases hrest
          rintro _ ⟨⟩
          rw [hnil rfl]
          exact hafter.content
      | cons => exact hlast

/-- Filtering in stages through files gives the counts and the last file that filtering in memory
gives, and whatever passes leave of the report is read back when it is written. -/
theorem filterStages_eq_filterOnce {desk : Desk} {input : String} {bytes : List UInt8}
    {report : Value} {stages : List Stage} {filters : List (List Pattern)}
    (hinput : desk.tree.content input = .ok bytes) (hreport : Json.read bytes = .ok report)
    (hwhole : ∀ number ∈ report.numbers, number.IsWhole)
    (hfilters : stages.mapM (fun stage => Filter.compile stage.filtering.patterns) = .ok filters)
    (hwidths : ∀ stage ∈ stages, stage.filtering.indent ≤ greatestWidth)
    (hplaces : ∀ stage ∈ stages, ∃ place, desk.tree.writable stage.output = .ok place) :
    ((filterStages input stages).run.run desk).1 = .ok (passes filters report).2 ∧
    (∀ last ∈ stages.getLast?,
      ((filterOnce input filters last.output last.filtering.indent).run.run desk).1 =
        .ok (passes filters report).2 ∧
      ((filterStages input stages).run.run desk).2.tree.content last.output =
        .ok (fileContent last.filtering.indent (passes filters report).1) ∧
      ((filterOnce input filters last.output last.filtering.indent).run.run desk).2.tree.content
          last.output =
        .ok (fileContent last.filtering.indent (passes filters report).1)) ∧
    ∀ others indent, Json.read (fileContent indent (passes others report).1) =
      .ok (passes others report).1 := by
  have hstorable := storable_of_read hreport hwhole
  have hread : read desk.tree input = .ok report := read_eq_ok_iff.mpr ⟨bytes, hinput, hreport⟩
  obtain ⟨after, hrun, -, hafter⟩ :=
    succeeds_filterStages hfilters hwidths hplaces hread hstorable desk.log
  refine ⟨congrArg Prod.fst hrun, fun last hlast => ?_, fun others indent => ?_⟩
  · have hmem := List.mem_of_getLast? hlast
    obtain ⟨place, hplace⟩ := hplaces last hmem
    obtain ⟨left, honce, hleft⟩ :=
      succeeds_filterOnce hread hplace (hwidths last hmem) filters desk.log
    rw [hrun, honce]
    exact ⟨rfl, hafter last hlast, hleft.content⟩
  · exact (hstorable.passes others).read_fileContent indent

/-- A report with one finding, and with a key and a number that take some care. -/
def annotatedFinding : Value :=
  withField "größe\n" (.array [.ofNat 18446744073709551615, .object []]) oneFinding

/-- A directory with one file, which holds the report. -/
def annotatedTree : Tree := ⟨[(["r"], .file (Text.encode annotatedFinding.compact))]⟩

/-- Stages that keep and remove everything, of which the last one writes to the first input. -/
def keepThenRemove : List Stage :=
  [⟨"s", { patterns := "+**", indent := 0 }⟩, ⟨"r", { patterns := "-**", indent := 2 }⟩]

set_option maxRecDepth 2000 in
/-- The finding is removed by the second stage, also in memory. -/
theorem filterStages_eq_filterOnce_keepThenRemove :
    Json.read (Text.encode annotatedFinding.compact) = .ok annotatedFinding ∧
    keepThenRemove.mapM (fun stage => Filter.compile stage.filtering.patterns) =
      .ok [[everything true], [everything false]] ∧
    ((filterStages "r" keepThenRemove).run.run { tree := annotatedTree }).1 =
      .ok [{ runs := 1, resultsBefore := 1, resultsAfter := 1, locationsBefore := 1 },
        { runs := 1, resultsBefore := 1, locationsBefore := 1, locationsRemoved := 1 }] ∧
    ((filterStages "r" keepThenRemove).run.run { tree := annotatedTree }).2.tree.content "r" =
      ((filterOnce "r" [[everything true], [everything false]] "r" 2).run.run
        { tree := annotatedTree }).2.tree.content "r" := by
  have hinput : (Desk.mk annotatedTree []).tree.content "r" =
      .ok (Text.encode annotatedFinding.compact) := rfl
  have hreport : Json.read (Text.encode annotatedFinding.compact) = .ok annotatedFinding := rfl
  have hwhole : ∀ number ∈ annotatedFinding.numbers, number.IsWhole :=
    List.forall_mem_singleton.mpr trivial
  have hfilters : keepThenRemove.mapM (fun stage => Filter.compile stage.filtering.patterns) =
      .ok [[everything true], [everything false]] := rfl
  have hwidths : ∀ stage ∈ keepThenRemove, stage.filtering.indent ≤ greatestWidth := by decide
  have hplaces : ∀ stage ∈ keepThenRemove,
      ∃ place, annotatedTree.writable stage.output = .ok place :=
    List.forall_mem_cons.mpr ⟨⟨["s"], rfl⟩, List.forall_mem_singleton.mpr ⟨["r"], rfl⟩⟩
  obtain ⟨hstats, hlast, -⟩ :=
    filterStages_eq_filterOnce hinput hreport hwhole hfilters hwidths hplaces
  obtain ⟨-, hstages, honce⟩ := hlast _ rfl
  exact ⟨hreport, hfilters, hstats, hstages.trans honce.symm⟩

end Suppression.Sarif
