import Suppression.Proofs.Fallible
import Suppression.Proofs.Json.Numbers

/-!
# Documents that can be read

In every document that was read, the keys of an object are distinct, integers fit into
64 bits, and arrays and objects do not nest deeper than the reader goes.
-/

namespace Suppression.Json

/-! ## Numbers of a document -/

mutual

/-- The numbers that occur in a document. -/
def Value.numbers : Value → List Number
  | .number number => [number]
  | .array items => numbersOfItems items
  | .object fields => numbersOfFields fields
  | _ => []

/-- The numbers that occur in items. -/
def numbersOfItems : List Value → List Number
  | [] => []
  | item :: items => item.numbers ++ numbersOfItems items

/-- The numbers that occur in the values of fields. -/
def numbersOfFields : List (String × Value) → List Number
  | [] => []
  | (_, value) :: fields => value.numbers ++ numbersOfFields fields

end

theorem numbers_array (items : List Value) :
    (Value.array items).numbers = items.flatMap Value.numbers := by
  rw [Value.numbers]
  induction items with
  | nil => rfl
  | cons item items ih => rw [numbersOfItems, ih, List.flatMap_cons]

theorem numbers_object (fields : List (String × Value)) :
    (Value.object fields).numbers = fields.flatMap fun field => field.2.numbers := by
  rw [Value.numbers]
  induction fields with
  | nil => rfl
  | cons field fields ih => rw [numbersOfFields, ih, List.flatMap_cons]

/-! ## Legible documents -/

/-- Arrays and objects nest at most `depth` deep, the keys of every object are distinct, and
all numbers are good ones. -/
inductive Legible (good : Number → Prop) : Nat → Value → Prop where
  | null {depth : Nat} : Legible good depth .null
  | bool {depth : Nat} (value : Bool) : Legible good depth (.bool value)
  | number {depth : Nat} {number : Number} (hgood : good number) :
      Legible good depth (.number number)
  | string {depth : Nat} (text : String) : Legible good depth (.string text)
  | array {depth : Nat} {items : List Value} (hitems : ∀ item ∈ items, Legible good depth item) :
      Legible good (depth + 1) (.array items)
  | object {depth : Nat} {fields : List (String × Value)} (hkeys : (fields.map Prod.fst).Nodup)
      (hfields : ∀ field ∈ fields, Legible good depth field.2) :
      Legible good (depth + 1) (.object fields)

theorem Legible.of_numbers {good better : Number → Prop} {depth : Nat} {value : Value}
    (h : Legible good depth value)
    (hbetter : ∀ number ∈ value.numbers, good number → better number) :
    Legible better depth value := by
  induction h with
  | null => exact .null
  | bool value => exact .bool value
  | number hgood => exact .number (hbetter _ List.mem_cons_self hgood)
  | string text => exact .string text
  | array hitems ih =>
      rw [numbers_array] at hbetter
      refine .array fun item hitem => ih item hitem fun number hnumber => hbetter number ?_
      exact List.mem_flatMap.mpr ⟨item, hitem, hnumber⟩
  | object hkeys hfields ih =>
      rw [numbers_object] at hbetter
      refine .object hkeys fun field hfield => ih field hfield fun number hnumber =>
        hbetter number ?_
      exact List.mem_flatMap.mpr ⟨field, hfield, hnumber⟩

/-! ## Merged fields -/

theorem map_fst_putField (key : String) (value : Value) (fields : List (String × Value)) :
    (putField key value fields).map Prod.fst =
      if key ∈ fields.map Prod.fst then fields.map Prod.fst else fields.map Prod.fst ++ [key] := by
  induction fields with
  | nil => rfl
  | cons field fields ih =>
      obtain ⟨other, old⟩ := field
      by_cases hkey : other = key
      · simp [putField, hkey]
      · have hne : key ≠ other := fun h => hkey h.symm
        rw [putField, if_neg hkey, List.map_cons, ih, List.map_cons]
        simp only [List.mem_cons, hne, false_or]
        split <;> rfl

theorem nodup_putField {fields : List (String × Value)} (h : (fields.map Prod.fst).Nodup)
    (key : String) (value : Value) : ((putField key value fields).map Prod.fst).Nodup := by
  rw [map_fst_putField]
  split
  next => exact h
  next hkey =>
    refine List.nodup_append.mpr ⟨h, List.pairwise_singleton _ _, ?_⟩
    intro other hother last hlast heq
    rw [List.mem_singleton.mp hlast] at heq
    exact hkey (heq ▸ hother)

theorem mem_putField {key : String} {value : Value} {fields : List (String × Value)}
    {field : String × Value} (h : field ∈ putField key value fields) :
    field = (key, value) ∨ field ∈ fields := by
  induction fields with
  | nil => exact .inl (List.mem_singleton.mp h)
  | cons first fields ih =>
      obtain ⟨other, old⟩ := first
      rw [putField] at h
      split at h
      next hkey =>
        subst hkey
        rcases List.mem_cons.mp h with hfirst | hfields
        · exact .inl hfirst
        · exact .inr (List.mem_cons_of_mem _ hfields)
      next =>
        rcases List.mem_cons.mp h with hfirst | hfields
        · exact .inr (hfirst ▸ List.mem_cons_self)
        · exact (ih hfields).imp_right (List.mem_cons_of_mem _)

theorem Legible.putField {good : Number → Prop} {depth : Nat} {fields : List (String × Value)}
    (h : Legible good (depth + 1) (.object fields)) (key : String) {value : Value}
    (hvalue : Legible good depth value) :
    Legible good (depth + 1) (.object (putField key value fields)) := by
  cases h with
  | object hkeys hfields =>
      refine .object (nodup_putField hkeys key value) fun field hfield => ?_
      rcases mem_putField hfield with rfl | hold
      · exact hvalue
      · exact hfields field hold

theorem legible_object_mergeFields {good : Number → Prop} {depth : Nat}
    {fields : List (String × Value)} (h : ∀ field ∈ fields, Legible good depth field.2) :
    Legible good (depth + 1) (.object (mergeFields fields)) := by
  refine List.foldlRecOn (motive := fun merged => Legible good (depth + 1) (.object merged))
    fields _ (.object List.nodup_nil (List.forall_mem_nil _)) ?_
  intro merged hmerged field hfield
  exact hmerged.putField field.1 (h field hfield)

theorem putField_of_not_mem {key : String} {fields : List (String × Value)}
    (h : key ∉ fields.map Prod.fst) (value : Value) :
    putField key value fields = fields ++ [(key, value)] := by
  induction fields with
  | nil => rfl
  | cons field fields ih =>
      rw [List.map_cons, List.mem_cons, not_or] at h
      rw [putField, if_neg (Ne.symm h.1), ih h.2, List.cons_append]

theorem foldl_putField_of_nodup (merged : List (String × Value))
    {fields : List (String × Value)} (h : ((merged ++ fields).map Prod.fst).Nodup) :
    fields.foldl (fun merged field => putField field.1 field.2 merged) merged =
      merged ++ fields := by
  induction fields generalizing merged with
  | nil => exact (List.append_nil merged).symm
  | cons field fields ih =>
      have hnew : field.1 ∉ merged.map Prod.fst := by
        intro hmem
        rw [List.map_append, List.map_cons] at h
        exact (List.nodup_append.mp h).2.2 field.1 hmem field.1 List.mem_cons_self rfl
      have hnext : merged ++ [field] ++ fields = merged ++ field :: fields := by simp
      rw [List.foldl_cons, putField_of_not_mem hnew, ih _ (hnext ▸ h), hnext]

/-- Distinct keys are not merged. -/
theorem mergeFields_of_nodup {fields : List (String × Value)} (h : (fields.map Prod.fst).Nodup) :
    mergeFields fields = fields :=
  foldl_putField_of_nodup [] h

/-! ## Documents that are read -/

section Containers

variable {limit : Nat} {readItem : List UInt8 → Except Stop (Value × List UInt8)}
  {good : Value → Prop}
  (hread : ∀ bytes item rest, readItem bytes = .ok (item, rest) → good item)

include hread

theorem forall_mem_of_readMoreItems {fuel : Nat} {bytes rest : List UInt8} {items : List Value}
    (h : readMoreItems readItem fuel bytes = .ok (items, rest)) : ∀ item ∈ items, good item := by
  induction fuel generalizing bytes items with
  | zero => cases h
  | succ fuel ih =>
      unfold readMoreItems at h
      split at h
      next => cases h
      next =>
        cases h
        exact List.forall_mem_nil _
      next =>
        split at h
        next => cases h
        next => cases h
        next =>
          obtain ⟨⟨item, _⟩, hitem, h⟩ := exists_of_bind_eq_ok h
          obtain ⟨⟨others, _⟩, hothers, h⟩ := exists_of_bind_eq_ok h
          cases h
          exact List.forall_mem_cons.mpr ⟨hread _ _ _ hitem, ih hothers⟩
      next => cases h

theorem good_of_readField {bytes rest : List UInt8} {field : String × Value}
    (h : readField limit readItem bytes = .ok (field, rest)) : good field.2 := by
  obtain ⟨⟨key, behind⟩, -, h⟩ := exists_of_bind_eq_ok h
  dsimp only at h
  split at h
  next => cases h
  next =>
    obtain ⟨⟨value, _⟩, hvalue, h⟩ := exists_of_bind_eq_ok h
    cases h
    exact hread _ _ _ hvalue
  next => cases h

theorem forall_mem_of_readMoreFields {fuel : Nat} {bytes rest : List UInt8}
    {fields : List (String × Value)}
    (h : readMoreFields limit readItem fuel bytes = .ok (fields, rest)) :
    ∀ field ∈ fields, good field.2 := by
  induction fuel generalizing bytes fields with
  | zero => cases h
  | succ fuel ih =>
      unfold readMoreFields at h
      split at h
      next => cases h
      next =>
        cases h
        exact List.forall_mem_nil _
      next =>
        split at h
        next => cases h
        next => cases h
        next =>
          obtain ⟨⟨field, _⟩, hfield, h⟩ := exists_of_bind_eq_ok h
          obtain ⟨⟨others, _⟩, hothers, h⟩ := exists_of_bind_eq_ok h
          cases h
          exact List.forall_mem_cons.mpr ⟨good_of_readField hread hfield, ih hothers⟩
        next => cases h
      next => cases h

end Containers

theorem legible_of_readArray {limit depth : Nat}
    {readItem : List UInt8 → Except Stop (Value × List UInt8)} {good : Number → Prop}
    (hread : ∀ bytes item rest, readItem bytes = .ok (item, rest) → Legible good depth item)
    {bytes rest : List UInt8} {value : Value}
    (h : readArray limit readItem bytes = .ok (value, rest)) : Legible good (depth + 1) value := by
  unfold readArray at h
  split at h
  next => cases h
  next =>
    cases h
    exact .array (List.forall_mem_nil _)
  next =>
    obtain ⟨⟨item, _⟩, hitem, h⟩ := exists_of_bind_eq_ok h
    obtain ⟨⟨items, _⟩, hitems, h⟩ := exists_of_bind_eq_ok h
    cases h
    exact .array (List.forall_mem_cons.mpr
      ⟨hread _ _ _ hitem, forall_mem_of_readMoreItems hread hitems⟩)

theorem legible_of_readObject {limit depth : Nat}
    {readItem : List UInt8 → Except Stop (Value × List UInt8)} {good : Number → Prop}
    (hread : ∀ bytes item rest, readItem bytes = .ok (item, rest) → Legible good depth item)
    {bytes rest : List UInt8} {value : Value}
    (h : readObject limit readItem bytes = .ok (value, rest)) :
    Legible good (depth + 1) value ∧ value.isObject := by
  unfold readObject at h
  split at h
  next => cases h
  next =>
    cases h
    exact ⟨.object List.nodup_nil (List.forall_mem_nil _), rfl⟩
  next =>
    obtain ⟨⟨field, _⟩, hfield, h⟩ := exists_of_bind_eq_ok h
    obtain ⟨⟨fields, _⟩, hfields, h⟩ := exists_of_bind_eq_ok h
    cases h
    refine ⟨legible_object_mergeFields (List.forall_mem_cons.mpr ⟨?_, ?_⟩), rfl⟩
    · exact good_of_readField hread hfield
    · exact forall_mem_of_readMoreFields hread hfields
  next => cases h

theorem legible_of_readScalar {limit depth : Nat} {byte : UInt8} {bytes rest : List UInt8}
    {value : Value} (h : readScalar limit byte bytes = .ok (value, rest)) :
    Legible Number.Fits depth value := by
  unfold readScalar at h
  split at h
  next =>
    obtain ⟨_, -, h⟩ := exists_of_bind_eq_ok h
    cases h
    exact .null
  next =>
    obtain ⟨_, -, h⟩ := exists_of_bind_eq_ok h
    cases h
    exact .bool true
  next =>
    obtain ⟨_, -, h⟩ := exists_of_bind_eq_ok h
    cases h
    exact .bool false
  next =>
    obtain ⟨⟨text, _⟩, -, h⟩ := exists_of_bind_eq_ok h
    cases h
    exact .string text
  next =>
    obtain ⟨⟨number, _⟩, hnumber, h⟩ := exists_of_bind_eq_ok h
    cases h
    exact .number (fits_of_readNumber hnumber)
  next =>
    split at h
    next =>
      obtain ⟨⟨number, _⟩, hnumber, h⟩ := exists_of_bind_eq_ok h
      cases h
      exact .number (fits_of_readNumber hnumber)
    next => cases h

theorem legible_of_readValue {limit depth : Nat} {bytes rest : List UInt8} {value : Value}
    (h : readValue limit depth bytes = .ok (value, rest)) : Legible Number.Fits depth value := by
  induction depth generalizing bytes rest value with
  | zero =>
      unfold readValue at h
      split at h
      next => cases h
      next => cases h
      next => cases h
      next => exact legible_of_readScalar h
  | succ depth ih =>
      unfold readValue at h
      split at h
      next => cases h
      next => exact legible_of_readArray (fun _ _ _ => ih) h
      next => exact (legible_of_readObject (fun _ _ _ => ih) h).1
      next => exact legible_of_readScalar h

/-- What is read is an object that could be read. -/
theorem legible_of_read {bytes : List UInt8} {document : Value} (h : read bytes = .ok document) :
    Legible Number.Fits depthLimit document ∧ document.isObject := by
  obtain ⟨⟨value, rest⟩, hroot, h⟩ := exists_of_bind_eq_ok (mapError_eq_ok_iff.mp h)
  obtain ⟨_, -, h⟩ := exists_of_bind_eq_ok h
  cases h
  unfold readRoot at hroot
  split at hroot
  next => cases hroot
  next => exact legible_of_readObject (fun _ _ _ => legible_of_readValue) hroot
  next => cases hroot
  next =>
    obtain ⟨_, -, h⟩ := exists_of_bind_eq_ok hroot
    cases h

end Suppression.Json
