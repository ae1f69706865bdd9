import Mathlib.Data.List.Forall2
import Mathlib.Data.List.ReduceOption
import Suppression.Proofs.Sarif.Sifting

/-!
# The effect of a pass

Which report a pass leaves, said by relations between values. A relation for a field
shows all fields around it, and none but the results of a run lose an item, so what is
not said to change keeps its value and its place.
-/

namespace Suppression.Sarif

open Json (Value putField)

/-- The first field of the key has another value, and all other fields are as they were. -/
def FieldReplaced (key : String) (old new before after : Value) : Prop :=
  ∃ front back, before = .object (front ++ (key, old) :: back) ∧
    (∀ field ∈ front, field.1 ≠ key) ∧ after = .object (front ++ (key, new) :: back)

/-- The array in the field is rewritten. A value without such an array stays as it is. -/
inductive ItemsRewritten (key : String) (rewrites : List Value → List Value → Prop)
    (value : Value) : Value → Prop where
  | absent (h : ∀ items, value.get? key ≠ some (.array items)) :
      ItemsRewritten key rewrites value value
  | rewritten {items new : List Value} {after : Value} (h : rewrites items new)
      (hreplaced : FieldReplaced key (.array items) (.array new) value after) :
      ItemsRewritten key rewrites value after

/-- A location stays if it names no file by a text, or a file that the patterns keep. -/
def locationStays (patterns : List Pattern) (rule : String) (location : Value) : Bool :=
  match location.at? ["physicalLocation", "artifactLocation", "uri"] with
  | some (.string uri) => Filter.keeps patterns uri rule
  | _ => true

/-- What becomes of a result: nothing is left of one that can be decided about and of which
no location stays. -/
inductive ResultLeft (patterns : List Pattern) (result : Value) : Option Value → Prop where
  | untouched (h : ∀ rule locations, ¬ Decided result rule locations) :
      ResultLeft patterns result (some result)
  | trimmed {rule : String} {locations : List Value} {after : Value}
      (h : Decided result rule locations)
      (hstay : locations.filter (locationStays patterns rule) ≠ [])
      (hreplaced : FieldReplaced "locations" (.array locations)
        (.array (locations.filter (locationStays patterns rule))) result after) :
      ResultLeft patterns result (some after)
  | removed {rule : String} {locations : List Value} (h : Decided result rule locations)
      (hnone : locations.filter (locationStays patterns rule) = []) :
      ResultLeft patterns result none

/-- The results that are left stand in their order. -/
def RunLeft (patterns : List Pattern) : Value → Value → Prop :=
  ItemsRewritten "results" fun results left =>
    ∃ outcomes, List.Forall₂ (ResultLeft patterns) results outcomes ∧
      outcomes.reduceOption = left

def ReportLeft (patterns : List Pattern) : Value → Value → Prop :=
  ItemsRewritten "runs" (List.Forall₂ (RunLeft patterns))

theorem putField_append_cons {key : String} {front : List (String × Value)}
    (h : ∀ field ∈ front, field.1 ≠ key) (old new : Value) (back : List (String × Value)) :
    putField key new (front ++ (key, old) :: back) = front ++ (key, new) :: back := by
  induction front with
  | nil => simp [putField]
  | cons field front ih =>
      obtain ⟨name, value⟩ := field
      have hname : name ≠ key := h (name, value) List.mem_cons_self
      have hfront := ih fun field hfield => h field (List.mem_cons_of_mem _ hfield)
      simp [putField, hname, hfront]

theorem fieldReplaced_iff {key : String} {old new before after : Value} :
    FieldReplaced key old new before after ↔
      before.get? key = some old ∧ withField key new before = after := by
  constructor
  · intro h
    obtain ⟨front, back, rfl, hfront, rfl⟩ := h
    refine ⟨?_, congrArg Value.object (putField_append_cons hfront old new back)⟩
    refine List.lookup_eq_some_iff.mpr ⟨front, back, rfl, ?_⟩
    intro field hfield
    simpa using Ne.symm (hfront field hfield)
  · intro h
    obtain ⟨hget, rfl⟩ := h
    obtain ⟨fields, rfl, hlookup⟩ := exists_fields_of_get? hget
    obtain ⟨front, back, rfl, hfront⟩ := List.lookup_eq_some_iff.mp hlookup
    have hne : ∀ field ∈ front, field.1 ≠ key := by
      intro field hfield
      simpa using Ne.symm (by simpa using hfront field hfield)
    exact ⟨front, back, rfl, hne, congrArg Value.object (putField_append_cons hne old new back)⟩

theorem itemsRewritten_mapItems {key : String} {rewrites : List Value → List Value → Prop}
    {rewrite : List Value → List Value} (h : ∀ items, rewrites items (rewrite items))
    (value : Value) : ItemsRewritten key rewrites value (mapItems key rewrite value) := by
  rcases array_or_not key value with ⟨items, hget⟩ | hnone
  · refine .rewritten (h items) (fieldReplaced_iff.mpr ⟨hget, ?_⟩)
    exact (mapItems_of_get? hget rewrite).symm
  · rw [mapItems_of_not_array hnone]
    exact .absent hnone

theorem itemsRewritten_iff {key : String} {rewrites : List Value → List Value → Prop}
    {rewrite : List Value → List Value}
    (h : ∀ items new, rewrites items new ↔ rewrite items = new) {value after : Value} :
    ItemsRewritten key rewrites value after ↔ mapItems key rewrite value = after := by
  constructor
  · intro hrewritten
    cases hrewritten with
    | absent hnone => exact mapItems_of_not_array hnone rewrite
    | rewritten hitems hreplaced =>
        obtain ⟨hget, rfl⟩ := fieldReplaced_iff.mp hreplaced
        rw [mapItems_of_get? hget, (h _ _).mp hitems]
  · intro hmap
    subst hmap
    exact itemsRewritten_mapItems (fun items => (h items _).mpr rfl) value

theorem judge_eq (patterns : List Pattern) : judge patterns = locationStays patterns := by
  funext rule location
  unfold judge Verdict.of locationStays uri?
  cases location.at? ["physicalLocation", "artifactLocation", "uri"] with
  | none => rfl
  | some found =>
      cases found with
      | string uri =>
          cases hkeeps : Filter.keeps patterns uri rule <;>
            simp [Value.text?, hkeeps, Verdict.stays]
      | _ => rfl

theorem resultLeft_iff (patterns : List Pattern) (result : Value) (left : Option Value) :
    ResultLeft patterns result left ↔ siftResult (judge patterns) result = left := by
  rw [judge_eq]
  constructor
  · intro h
    cases h with
    | untouched hnone => exact siftResult_of_not_decided hnone _
    | trimmed hdecided hstay hreplaced =>
        obtain ⟨-, rfl⟩ := fieldReplaced_iff.mp hreplaced
        simp [siftResult_of_decided hdecided, hstay]
    | removed hdecided hnone => simp [siftResult_of_decided hdecided, hnone]
  · intro h
    subst h
    rcases decided_or_not result with ⟨rule, locations, hdecided⟩ | hnone
    · rw [siftResult_of_decided hdecided]
      split
      next hnone => exact .removed hdecided (List.isEmpty_iff.mp hnone)
      next hstay =>
        apply ResultLeft.trimmed hdecided fun hnil => hstay (List.isEmpty_iff.mpr hnil)
        exact fieldReplaced_iff.mpr ⟨hdecided.2.1, rfl⟩
    · rw [siftResult_of_not_decided hnone]
      exact .untouched hnone

/-- A relation that is a function relates lists item by item as the function maps them. -/
theorem forall₂_iff_map_eq {Old New : Type} {relates : Old → New → Prop} {change : Old → New}
    (h : ∀ old new, relates old new ↔ change old = new) {olds : List Old} {news : List New} :
    List.Forall₂ relates olds news ↔ olds.map change = news := by
  have hrelates : relates = fun old new => change old = new := by
    funext old new
    exact propext (h old new)
  rw [hrelates, ← List.forall₂_eq_eq_eq]
  exact List.forall₂_map_left_iff.symm

theorem runLeft_iff (patterns : List Pattern) (run left : Value) :
    RunLeft patterns run left ↔ siftRun (judge patterns) run = left := by
  apply itemsRewritten_iff
  intro results left
  -- The outcomes are determined, so the existence of some is a statement about these.
  have houtcomes : ∀ outcomes, List.Forall₂ (ResultLeft patterns) results outcomes ↔
      results.map (siftResult (judge patterns)) = outcomes :=
    fun outcomes => forall₂_iff_map_eq (resultLeft_iff patterns)
  have hleft : (results.map (siftResult (judge patterns))).reduceOption =
      results.filterMap (siftResult (judge patterns)) := by
    rw [List.reduceOption, List.filterMap_map]
    rfl
  simp only [houtcomes, exists_eq_left', hleft]

/-- A pass leaves exactly the report that its patterns leave. -/
theorem pass_fst_eq_iff (patterns : List Pattern) (report left : Value) :
    (pass patterns report).1 = left ↔ ReportLeft patterns report left := by
  rw [pass_fst]
  refine (itemsRewritten_iff ?_).symm
  intro runs left
  exact forall₂_iff_map_eq (runLeft_iff patterns)

end Suppression.Sarif
