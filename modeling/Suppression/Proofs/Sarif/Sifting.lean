import Mathlib.Data.List.Basic
import Suppression.Sarif.Pass

/-!
# Sifting a report

What a pass leaves of a report, without the account it keeps. A judge says which
locations of a rule stay. Sifting rewrites the results of every run and nothing else, so
sifting twice is sifting once with both judges.
-/

namespace Suppression.Sarif

open Json (Value putField)

/-! ## Fields -/

theorem putField_putField (key : String) (value other : Value)
    (fields : List (String × Value)) :
    putField key value (putField key other fields) = putField key value fields := by
  induction fields with
  | nil => simp [putField]
  | cons field fields ih =>
      obtain ⟨name, old⟩ := field
      by_cases hname : name = key <;> simp [putField, hname, ih]

theorem putField_of_lookup {key : String} {value : Value} {fields : List (String × Value)}
    (h : fields.lookup key = some value) : putField key value fields = fields := by
  induction fields with
  | nil => cases h
  | cons field fields ih =>
      obtain ⟨name, old⟩ := field
      rw [List.lookup_cons] at h
      by_cases hname : name = key
      · subst hname
        have hold : old = value := by simpa using h
        simp [putField, hold]
      · have hne : (key == name) = false := by simpa using Ne.symm hname
        rw [hne] at h
        simp [putField, hname, ih h]

theorem exists_fields_of_get? {key : String} {value found : Value}
    (h : value.get? key = some found) :
    ∃ fields, value = .object fields ∧ fields.lookup key = some found := by
  cases value with
  | object fields => exact ⟨fields, rfl, h⟩
  | _ => cases h

theorem get?_withField_self {key : String} {value found : Value} (new : Value)
    (h : value.get? key = some found) : (withField key new value).get? key = some new := by
  obtain ⟨fields, rfl, -⟩ := exists_fields_of_get? h
  exact Json.lookup_putField_self key new fields

theorem get?_withField_of_ne {key other : String} (h : other ≠ key) (new value : Value) :
    (withField key new value).get? other = value.get? other := by
  cases value with
  | object fields => exact Json.lookup_putField_of_ne h new fields
  | _ => rfl

theorem withField_withField (key : String) (new old value : Value) :
    withField key new (withField key old value) = withField key new value := by
  cases value with
  | object fields => exact congrArg Value.object (putField_putField key new old fields)
  | _ => rfl

theorem withField_of_get? {key : String} {value found : Value}
    (h : value.get? key = some found) : withField key found value = value := by
  obtain ⟨fields, rfl, hlookup⟩ := exists_fields_of_get? h
  exact congrArg Value.object (putField_of_lookup hlookup)

theorem array_or_not (key : String) (value : Value) :
    (∃ items, value.get? key = some (.array items)) ∨
      ∀ items, value.get? key ≠ some (.array items) := by
  rw [← not_exists]
  exact Classical.em _

/-- Rewrite the items of the array that a field holds. -/
def mapItems (key : String) (rewrite : List Value → List Value) (value : Value) : Value :=
  match value.get? key with
  | some (.array items) => withField key (.array (rewrite items)) value
  | _ => value

theorem mapItems_of_get? {key : String} {value : Value} {items : List Value}
    (h : value.get? key = some (.array items)) (rewrite : List Value → List Value) :
    mapItems key rewrite value = withField key (.array (rewrite items)) value := by
  simp [mapItems, h]

theorem mapItems_of_not_array {key : String} {value : Value}
    (h : ∀ items, value.get? key ≠ some (.array items)) (rewrite : List Value → List Value) :
    mapItems key rewrite value = value := by
  unfold mapItems
  split
  next items hget => exact absurd hget (h items)
  next => rfl

theorem isObject_mapItems (key : String) (rewrite : List Value → List Value) (value : Value) :
    (mapItems key rewrite value).isObject = value.isObject := by
  rcases array_or_not key value with ⟨items, hget⟩ | hnone
  · obtain ⟨fields, rfl, -⟩ := exists_fields_of_get? hget
    rw [mapItems_of_get? hget]
    rfl
  · rw [mapItems_of_not_array hnone]

theorem mapItems_mapItems (key : String) (first second : List Value → List Value)
    (value : Value) :
    mapItems key second (mapItems key first value) =
      mapItems key (fun items => second (first items)) value := by
  rcases array_or_not key value with ⟨items, hget⟩ | hnone
  · rw [mapItems_of_get? hget, mapItems_of_get? hget,
      mapItems_of_get? (get?_withField_self _ hget), withField_withField]
  · rw [mapItems_of_not_array hnone, mapItems_of_not_array hnone, mapItems_of_not_array hnone]

theorem mapItems_eq_self {rewrite : List Value → List Value} (h : ∀ items, rewrite items = items)
    (key : String) (value : Value) : mapItems key rewrite value = value := by
  unfold mapItems
  split
  next items hget =>
    rw [h items]
    exact withField_of_get? hget
  next => rfl

/-! ## Judges -/

/-- Says which locations of the results of a rule stay. -/
abbrev Judge := String → Value → Bool

/-- The judge that goes by patterns. -/
def judge (patterns : List Pattern) : Judge := fun rule location =>
  (Verdict.of patterns rule location).stays

theorem judge_apply (patterns : List Pattern) (rule : String) (location : Value) :
    judge patterns rule location =
      (uri? location).all fun uri => Filter.keeps patterns uri rule := by
  unfold judge Verdict.of
  cases uri? location with
  | none => rfl
  | some uri => cases hkeeps : Filter.keeps patterns uri rule <;> simp [hkeeps, Verdict.stays]

theorem text?_eq_some_iff {value : Value} {text : String} :
    value.text? = some text ↔ value = .string text := by
  cases value <;> simp [Value.text?]

/-- The result names its rule and has locations, so that it can be decided about. -/
def Decided (result : Value) (rule : String) (locations : List Value) : Prop :=
  result.get? "ruleId" = some (.string rule) ∧
    result.get? "locations" = some (.array locations) ∧ locations ≠ []

theorem decided_or_not (result : Value) :
    (∃ rule locations, Decided result rule locations) ∨
      ∀ rule locations, ¬ Decided result rule locations := by
  simp only [← not_exists]
  exact Classical.em _

theorem shape_eq_decidable_iff {result : Value} {rule : String} {locations : List Value} :
    Shape.of result = .decidable rule locations ↔ Decided result rule locations := by
  constructor
  · intro h
    unfold Shape.of at h
    split at h
    next => cases h
    next =>
      split at h
      next => cases h
      next => cases h
      next items hne hlocations =>
        split at h
        next => cases h
        next named hrule =>
          cases h
          obtain ⟨value, hvalue, htext⟩ := Option.bind_eq_some_iff.mp hrule
          rw [text?_eq_some_iff.mp htext] at hvalue
          exact ⟨hvalue, hlocations, hne⟩
      next => cases h
  · intro h
    obtain ⟨hrule, hlocations, hne⟩ := h
    obtain ⟨fields, rfl, -⟩ := exists_fields_of_get? hlocations
    obtain ⟨first, rest, rfl⟩ := List.exists_cons_of_ne_nil hne
    simp [Shape.of, Value.isObject, hlocations, hrule, Value.text?]

/-- Trimmed locations are decided about by the same rule. -/
theorem Decided.withField {result : Value} {rule : String} {locations left : List Value}
    (h : Decided result rule locations) (hleft : left ≠ []) :
    Decided (withField "locations" (.array left) result) rule left := by
  obtain ⟨hrule, hlocations, -⟩ := h
  refine ⟨?_, get?_withField_self _ hlocations, hleft⟩
  rw [get?_withField_of_ne (by decide), hrule]

/-! ## Sifting -/

/-- What a judge leaves of a result. -/
def siftResult (judge : Judge) (result : Value) : Option Value :=
  match Shape.of result with
  | .decidable rule locations =>
      let left := locations.filter (judge rule)
      if left.isEmpty then none else some (withField "locations" (.array left) result)
  | _ => some result

/-- What a judge leaves of a run. -/
def siftRun (judge : Judge) (run : Value) : Value :=
  mapItems "results" (List.filterMap (siftResult judge)) run

/-- What a judge leaves of a report. -/
def sift (judge : Judge) (report : Value) : Value :=
  mapItems "runs" (List.map (siftRun judge)) report

theorem siftResult_of_decided {result : Value} {rule : String} {locations : List Value}
    (h : Decided result rule locations) (judge : Judge) :
    siftResult judge result =
      if (locations.filter (judge rule)).isEmpty then none
      else some (withField "locations" (.array (locations.filter (judge rule))) result) := by
  rw [siftResult, shape_eq_decidable_iff.mpr h]

theorem siftResult_of_not_decided {result : Value}
    (h : ∀ rule locations, ¬ Decided result rule locations) (judge : Judge) :
    siftResult judge result = some result := by
  unfold siftResult
  split
  next rule locations hshape => exact absurd (shape_eq_decidable_iff.mp hshape) (h rule locations)
  next => rfl

/-- What is left of the first result stands in front of what is left of the others. -/
theorem filterMap_siftResult_cons (judge : Judge) (result : Value) (results : List Value) :
    (result :: results).filterMap (siftResult judge) =
      (siftResult judge result).toList ++ results.filterMap (siftResult judge) := by
  rw [List.filterMap_cons]
  cases siftResult judge result <;> rfl

/-! ## What a pass leaves -/

theorem passResult_fst (patterns : List Pattern) (result : Value) :
    (passResult patterns result).1 = siftResult (judge patterns) result := by
  unfold passResult siftResult
  cases Shape.of result <;> rfl

theorem passResults_fst (patterns : List Pattern) (index : Nat) (results : List Value) :
    (passResults patterns index results).1 =
      results.filterMap (siftResult (judge patterns)) := by
  induction results generalizing index with
  | nil => rfl
  | cons result results ih =>
      have hcons : (passResults patterns index (result :: results)).1 =
          (passResult patterns result).1.toList ++ (passResults patterns (index + 1) results).1 :=
        rfl
      rw [hcons, ih, passResult_fst, filterMap_siftResult_cons]

theorem passRun_fst (patterns : List Pattern) (index : Nat) (run : Value) :
    (passRun patterns index run).1 = siftRun (judge patterns) run := by
  unfold passRun siftRun mapItems
  cases run with
  | object fields =>
      cases hresults : (Value.object fields).get? "results" with
      | none => rfl
      | some found =>
          cases found with
          | array results =>
              have hleft := passResults_fst patterns 0 results
              simp only [Value.isObject, Bool.not_true, Bool.false_eq_true, if_false]
              rw [← hleft]
          | _ => rfl
  | _ => rfl

theorem passRuns_fst (patterns : List Pattern) (index : Nat) (runs : List Value) :
    (passRuns patterns index runs).1 = runs.map (siftRun (judge patterns)) := by
  induction runs generalizing index with
  | nil => rfl
  | cons run runs ih =>
      have hcons : (passRuns patterns index (run :: runs)).1 =
          (passRun patterns index run).1 :: (passRuns patterns (index + 1) runs).1 := rfl
      rw [hcons, ih, passRun_fst, List.map_cons]

/-- A pass leaves of a report what the judge of its patterns leaves. -/
theorem pass_fst (patterns : List Pattern) (report : Value) :
    (pass patterns report).1 = sift (judge patterns) report := by
  unfold pass sift mapItems
  cases hruns : report.get? "runs" with
  | none => rfl
  | some found =>
      cases found with
      | array runs =>
          change withField "runs" (.array (passRuns patterns 0 runs).1) report = _
          rw [passRuns_fst]
      | _ => rfl

/-! ## Sifting twice -/

/-- What two judges leave of a result one after the other, they leave together. -/
theorem siftResult_bind (first second : Judge) (result : Value) :
    (siftResult first result).bind (siftResult second) =
      siftResult (fun rule location => second rule location && first rule location) result := by
  rcases decided_or_not result with ⟨rule, locations, hdecided⟩ | hnone
  · rw [siftResult_of_decided hdecided, siftResult_of_decided hdecided, ← List.filter_filter]
    cases hleft : locations.filter (first rule) with
    | nil => rfl
    | cons location left =>
        -- A trimmed result still has locations, so the second judge decides about it too.
        have htrimmed := hdecided.withField (List.cons_ne_nil location left)
        simp only [List.isEmpty_cons, Bool.false_eq_true, if_false, Option.bind_some]
        rw [siftResult_of_decided htrimmed, withField_withField]
  · rw [siftResult_of_not_decided hnone, siftResult_of_not_decided hnone]
    exact siftResult_of_not_decided hnone second

theorem siftRun_siftRun (first second : Judge) (run : Value) :
    siftRun second (siftRun first run) =
      siftRun (fun rule location => second rule location && first rule location) run := by
  unfold siftRun
  rw [mapItems_mapItems]
  congr 1
  funext results
  rw [List.filterMap_filterMap]
  congr 1
  funext result
  exact siftResult_bind first second result

/-- Sifting twice is sifting once with both judges. -/
theorem sift_sift (first second : Judge) (report : Value) :
    sift second (sift first report) =
      sift (fun rule location => second rule location && first rule location) report := by
  unfold sift
  rw [mapItems_mapItems]
  congr 1
  funext runs
  rw [List.map_map]
  congr 1
  funext run
  exact siftRun_siftRun first second run

/-- A judge that lets everything stay changes nothing. -/
theorem siftResult_true (result : Value) : siftResult (fun _ _ => true) result = some result := by
  rcases decided_or_not result with ⟨rule, locations, hdecided⟩ | hnone
  · have hfilter : locations.filter (fun _ => true) = locations := List.filter_true locations
    rw [siftResult_of_decided hdecided, hfilter, withField_of_get? hdecided.2.1]
    simp [hdecided.2.2]
  · exact siftResult_of_not_decided hnone _

theorem sift_true (report : Value) : sift (fun _ _ => true) report = report := by
  have hresults : ∀ results : List Value,
      results.filterMap (siftResult fun _ _ => true) = results := by
    intro results
    rw [funext siftResult_true, List.filterMap_some]
  have hrun : siftRun (fun _ _ => true) = id := funext (mapItems_eq_self hresults "results")
  have hruns : ∀ runs : List Value, runs.map (siftRun fun _ _ => true) = runs := by
    intro runs
    rw [hrun, List.map_id]
  exact mapItems_eq_self hruns "runs" report

end Suppression.Sarif
