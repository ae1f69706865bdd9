/-!
# Steps that can fail

A computation of several steps gives a value only if every step does. Failures that are
put into other words are failures still.
-/

namespace Suppression

theorem ok_bind {α β ε : Type} (value : α) (next : α → Except ε β) :
    (.ok value >>= next) = next value := rfl

theorem exists_of_bind_eq_ok {α β ε : Type} {result : Except ε α} {next : α → Except ε β}
    {last : β} (h : result >>= next = .ok last) :
    ∃ value, result = .ok value ∧ next value = .ok last := by
  cases result with
  | error error => cases h
  | ok value => exact ⟨value, rfl, h⟩

theorem exists_mem_of_mapM_eq_ok {α β ε : Type} {read : α → Except ε β} {sources : List α}
    {targets : List β} (h : sources.mapM read = .ok targets) :
    ∀ target ∈ targets, ∃ source ∈ sources, read source = .ok target := by
  induction sources generalizing targets with
  | nil =>
      cases h
      simp
  | cons source sources ih =>
      rw [List.mapM_cons] at h
      obtain ⟨target, hsource, h⟩ := exists_of_bind_eq_ok h
      obtain ⟨rest, hsources, h⟩ := exists_of_bind_eq_ok h
      cases h
      refine List.forall_mem_cons.mpr ⟨⟨source, List.mem_cons_self, hsource⟩, ?_⟩
      intro other hother
      obtain ⟨found, hfound, hread⟩ := ih hsources other hother
      exact ⟨found, List.mem_cons_of_mem _ hfound, hread⟩

theorem mapError_eq_ok_iff {α ε δ : Type} {result : Except ε α} {reword : ε → δ} {value : α} :
    result.mapError reword = .ok value ↔ result = .ok value := by
  cases result with
  | error error => constructor <;> intro h <;> cases h
  | ok found => constructor <;> intro h <;> cases h <;> rfl

theorem mapError_eq_error_iff {α ε δ : Type} {result : Except ε α} {reword : ε → δ}
    {error : δ} :
    result.mapError reword = .error error ↔
      ∃ cause, result = .error cause ∧ reword cause = error := by
  cases result with
  | error cause =>
      constructor
      · intro h
        cases h
        exact ⟨cause, rfl, rfl⟩
      · rintro ⟨_, hcause, rfl⟩
        cases hcause
        rfl
  | ok value =>
      constructor
      · intro h
        cases h
      · rintro ⟨_, hcause, -⟩
        cases hcause

theorem toOption_eq_some_iff {α ε : Type} {result : Except ε α} {value : α} :
    result.toOption = some value ↔ result = .ok value := by
  cases result <;> simp [Except.toOption]

end Suppression
