import Suppression.Sarif.Tally

/-!
# Counting names

Counts as functions from names to numbers. A list of counts is built one name at a time
and kept in ascending order, so every name has one entry, and the entry says how often
the name occurred. Sorting by frequency moves entries only.
-/

namespace Suppression.Sarif

namespace Counts

/-- How often a name was counted. -/
def count (counts : Counts) (name : String) : Nat := (counts.lookup name).getD 0

/-- The names ascend, so none of them has a second entry. -/
def Ascending (counts : Counts) : Prop :=
  counts.Pairwise fun left right => left.1 < right.1

theorem count_cons (key name : String) (number : Nat) (counts : Counts) :
    count ((key, number) :: counts) name = if name = key then number else counts.count name := by
  unfold count
  rw [List.lookup_cons]
  by_cases hname : name = key
  · simp [hname]
  · have hne : (name == key) = false := by simpa using hname
    simp [hname, hne]

/-- A name in front of all counted ones has not been counted. -/
theorem count_eq_zero_of_lt {counts : Counts} {name : String}
    (h : ∀ entry ∈ counts, name < entry.1) : counts.count name = 0 := by
  have hnone : counts.lookup name = none := by
    rw [List.lookup_eq_none_iff]
    intro entry hentry
    have hne : name ≠ entry.1 := by
      intro heq
      have hlt := h entry hentry
      rw [heq] at hlt
      exact String.lt_irrefl _ hlt
    simpa using hne
  rw [count, hnone]
  rfl

/-- Counting a name once more brings in no other name. -/
theorem mem_bump {name : String} {counts : Counts} {entry : String × Nat}
    (h : entry ∈ bump name counts) : entry.1 = name ∨ ∃ old ∈ counts, old.1 = entry.1 := by
  induction counts with
  | nil =>
      rw [bump, List.mem_singleton] at h
      exact .inl (congrArg Prod.fst h)
  | cons first counts ih =>
      obtain ⟨key, number⟩ := first
      rw [bump] at h
      split at h
      next hname =>
        rcases List.mem_cons.mp h with rfl | hrest
        · exact .inl hname.symm
        · exact .inr ⟨entry, List.mem_cons_of_mem _ hrest, rfl⟩
      next =>
        split at h
        next =>
          rcases List.mem_cons.mp h with rfl | hrest
          · exact .inl rfl
          · exact .inr ⟨entry, hrest, rfl⟩
        next =>
          rcases List.mem_cons.mp h with rfl | hrest
          · exact .inr ⟨_, List.mem_cons_self, rfl⟩
          · rcases ih hrest with heq | ⟨old, hold, heq⟩
            · exact .inl heq
            · exact .inr ⟨old, List.mem_cons_of_mem _ hold, heq⟩

namespace Ascending

theorem bump {counts : Counts} (h : counts.Ascending) (name : String) :
    (counts.bump name).Ascending := by
  induction counts with
  | nil => exact List.pairwise_singleton _ _
  | cons first counts ih =>
      obtain ⟨key, number⟩ := first
      obtain ⟨hfirst, hrest⟩ := List.pairwise_cons.mp h
      rw [Counts.bump]
      split
      next => exact List.pairwise_cons.mpr ⟨hfirst, hrest⟩
      next hne =>
        split
        next hlt =>
          refine List.pairwise_cons.mpr ⟨?_, h⟩
          intro entry hentry
          rcases List.mem_cons.mp hentry with rfl | hentry
          · exact hlt
          · exact String.lt_trans hlt (hfirst entry hentry)
        next hnlt =>
          refine List.pairwise_cons.mpr ⟨?_, ih hrest⟩
          intro entry hentry
          rcases mem_bump hentry with hname | ⟨old, hold, hname⟩
          · rw [hname]
            exact Std.lt_of_le_of_ne (String.not_lt.mp hnlt) (Ne.symm hne)
          · rw [← hname]
            exact hfirst old hold

theorem count_bump {counts : Counts} (h : counts.Ascending) (name other : String) :
    (counts.bump name).count other = counts.count other + if other = name then 1 else 0 := by
  induction counts with
  | nil =>
      rw [Counts.bump, count_cons]
      exact (Nat.zero_add _).symm
  | cons first counts ih =>
      obtain ⟨key, number⟩ := first
      obtain ⟨hfirst, hrest⟩ := List.pairwise_cons.mp h
      rw [Counts.bump]
      split
      next hname =>
        subst hname
        rw [count_cons, count_cons]
        split <;> rfl
      next hne =>
        split
        next hlt =>
          rw [count_cons]
          split
          next hother =>
            -- The name stands in front of all others, so it had no entry.
            have hzero : count ((key, number) :: counts) other = 0 := by
              apply count_eq_zero_of_lt
              intro entry hentry
              rw [hother]
              rcases List.mem_cons.mp hentry with rfl | hentry
              · exact hlt
              · exact String.lt_trans hlt (hfirst entry hentry)
            rw [hzero]
          next => rfl
        next =>
          rw [count_cons, count_cons, ih hrest]
          split
          next hother => rw [if_neg (hother ▸ Ne.symm hne), Nat.add_zero]
          next => rfl

theorem foldl_bump {counts : Counts} (h : counts.Ascending) (names : List String) :
    (names.foldl (fun counts name => counts.bump name) counts).Ascending := by
  induction names generalizing counts with
  | nil => exact h
  | cons name names ih => exact ih (h.bump name)

theorem count_foldl_bump {counts : Counts} (h : counts.Ascending) (names : List String)
    (name : String) :
    (names.foldl (fun counts name => counts.bump name) counts).count name =
      counts.count name + names.count name := by
  induction names generalizing counts with
  | nil => rfl
  | cons first names ih =>
      rw [List.foldl_cons, ih (h.bump first), h.count_bump first name, List.count_cons,
        Nat.add_assoc, Nat.add_comm (names.count name)]
      by_cases hname : first = name <;> simp [hname, Ne.symm]

end Ascending

theorem ascending_of (names : List String) : (of names).Ascending :=
  Ascending.foldl_bump List.Pairwise.nil names

/-- Every name is counted as often as it occurs. -/
theorem count_of (names : List String) (name : String) :
    (of names).count name = names.count name := by
  rw [of, Ascending.count_foldl_bump List.Pairwise.nil]
  exact Nat.zero_add _

/-- No name has two entries. -/
def Distinct (counts : Counts) : Prop :=
  counts.Pairwise fun left right => left.1 ≠ right.1

theorem Ascending.distinct {counts : Counts} (h : counts.Ascending) : counts.Distinct := by
  refine List.Pairwise.imp ?_ h
  intro left right hlt heq
  rw [heq] at hlt
  exact String.lt_irrefl _ hlt

theorem Distinct.lookup_eq_some_iff {counts : Counts} (h : counts.Distinct) {name : String}
    {number : Nat} : counts.lookup name = some number ↔ (name, number) ∈ counts := by
  induction counts with
  | nil => simp
  | cons first counts ih =>
      obtain ⟨key, old⟩ := first
      obtain ⟨hfirst, hrest⟩ := List.pairwise_cons.mp h
      rw [List.lookup_cons]
      by_cases hname : name = key
      · subst hname
        have hnotMem : (name, number) ∉ counts := fun hmem => hfirst _ hmem rfl
        simp [hnotMem, eq_comm]
      · have hne : (name == key) = false := by simpa using hname
        simp [hne, hname, ih hrest]

/-- Moving entries changes no count. -/
theorem Distinct.count_eq_of_perm {counts moved : Counts} (h : counts.Distinct)
    (hperm : counts.Perm moved) (name : String) : counts.count name = moved.count name := by
  have hmoved : moved.Distinct := hperm.pairwise h fun hne => Ne.symm hne
  have hlookup : counts.lookup name = moved.lookup name := by
    apply Option.ext
    intro number
    rw [h.lookup_eq_some_iff, hmoved.lookup_eq_some_iff]
    exact hperm.mem_iff
  rw [count, count, hlookup]

theorem count_mostFrequentFirst {counts : Counts} (h : counts.Distinct) (name : String) :
    counts.mostFrequentFirst.count name = counts.count name :=
  (h.count_eq_of_perm (List.mergeSort_perm _ _).symm name).symm

end Counts

theorem count_byRule (fallback : String) (report : Json.Value) (rule : String) :
    (tally fallback report).byRule.count rule =
      (((runs report).flatMap findings).map ruleKey).count rule := by
  change (Counts.of _).mostFrequentFirst.count rule = _
  rw [Counts.count_mostFrequentFirst (Counts.ascending_of _).distinct, Counts.count_of]

theorem count_byLevel (fallback : String) (report : Json.Value) (level : String) :
    (tally fallback report).byLevel.count level =
      (((runs report).flatMap findings).map levelKey).count level :=
  Counts.count_of _ level

end Suppression.Sarif
