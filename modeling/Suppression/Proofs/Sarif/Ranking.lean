import Mathlib.Data.List.Induction
import Suppression.Proofs.Sarif.Findings

/-!
# Ranked counts

What a tally says about the findings of a report, whatever way they are counted in. Counts
that are exact for the same names have the same entries, and no two of these have the same
name. So the entries of a table can be ranked in one way only, in whatever order the table
gives them.
-/

namespace Suppression.Sarif

open Json (Value)

namespace Counts

/-- Every name that occurs has one entry, which says how often it occurs. -/
structure Exact (counts : Counts) (names : List String) : Prop where
  distinct : counts.Distinct
  mem_iff : ∀ name number, (name, number) ∈ counts ↔ 0 < number ∧ names.count name = number

def codePoints (text : String) : List Nat := text.toList.map Char.toNat

/-- A greater count comes first, and of equal ones the name with the lesser code points. -/
def Precedes (left right : String × Nat) : Prop :=
  right.2 < left.2 ∨ left.2 = right.2 ∧ codePoints left.1 < codePoints right.1

/-- Names counted in a table, whose entries have no order of their own. -/
def tableOf (names : List String) : Std.HashMap String Nat :=
  names.foldl (fun table name => table.insert name (table.getD name 0 + 1)) ∅

/-- Compares the counts of two entries, and their names if the counts are equal. -/
def comesFirst (left right : String × Nat) : Bool :=
  right.2 < left.2 || (left.2 = right.2 && left.1 ≤ right.1)

def ranked (counts : Counts) : Counts := counts.mergeSort comesFirst

/-! ## Exact counts -/

theorem Distinct.nodup {counts : Counts} (h : counts.Distinct) : counts.Nodup :=
  List.Pairwise.imp (fun hne heq => hne (congrArg Prod.fst heq)) h

theorem Exact.of_perm {counts moved : Counts} {names : List String} (h : counts.Exact names)
    (hperm : counts.Perm moved) : moved.Exact names where
  distinct := hperm.pairwise h.distinct fun hne => Ne.symm hne
  mem_iff := fun name number => hperm.mem_iff.symm.trans (h.mem_iff name number)

/-- Exact counts of the same names differ in the order of their entries only. -/
theorem Exact.perm {counts others : Counts} {names : List String} (h : counts.Exact names)
    (hothers : others.Exact names) : counts.Perm others := by
  rw [List.perm_ext_iff_of_nodup h.distinct.nodup hothers.distinct.nodup]
  intro entry
  rw [h.mem_iff entry.1 entry.2, hothers.mem_iff entry.1 entry.2]

theorem of_concat (names : List String) (name : String) :
    of (names ++ [name]) = (of names).bump name :=
  List.foldl_concat ..

theorem pos_of_mem_bump {counts : Counts} (h : ∀ entry ∈ counts, 0 < entry.2) (name : String) :
    ∀ entry ∈ counts.bump name, 0 < entry.2 := by
  induction counts with
  | nil => simp [bump]
  | cons first counts ih =>
      obtain ⟨key, number⟩ := first
      obtain ⟨hfirst, hrest⟩ := List.forall_mem_cons.mp h
      rw [bump]
      split
      next => exact List.forall_mem_cons.mpr ⟨Nat.succ_pos number, hrest⟩
      next =>
        split
        next => exact List.forall_mem_cons.mpr ⟨Nat.one_pos, h⟩
        next => exact List.forall_mem_cons.mpr ⟨hfirst, ih hrest⟩

theorem pos_of_mem_of (names : List String) : ∀ entry ∈ of names, 0 < entry.2 := by
  induction names using List.reverseRecOn with
  | nil => simp [of]
  | append_singleton names name ih =>
      rw [of_concat]
      exact pos_of_mem_bump ih name

theorem exact_of (names : List String) : (of names).Exact names where
  distinct := (ascending_of names).distinct
  mem_iff := by
    intro name number
    have hdistinct := (ascending_of names).distinct
    have hcount : ((of names).lookup name).getD 0 = names.count name := count_of names name
    constructor
    · intro hmem
      rw [hdistinct.lookup_eq_some_iff.mpr hmem] at hcount
      exact ⟨pos_of_mem_of names _ hmem, hcount.symm⟩
    · rintro ⟨hpos, rfl⟩
      rw [← hdistinct.lookup_eq_some_iff]
      cases hlookup : (of names).lookup name with
      | none =>
          rw [hlookup] at hcount
          exact absurd hcount (Nat.ne_of_lt hpos)
      | some found =>
          rw [hlookup] at hcount
          exact congrArg some hcount

theorem getElem?_tableOf (names : List String) (name : String) :
    (tableOf names)[name]? =
      if names.count name = 0 then none else some (names.count name) := by
  induction names using List.reverseRecOn with
  | nil => simp [tableOf]
  | append_singleton names last ih =>
      have hlast : tableOf (names ++ [last]) =
          (tableOf names).insert last ((tableOf names).getD last 0 + 1) := List.foldl_concat ..
      rw [hlast, Std.HashMap.getElem?_insert, List.count_append, List.count_singleton]
      by_cases hname : last = name
      · subst hname
        rw [Std.HashMap.getD_eq_getD_getElem?, ih]
        cases names.count last <;> simp
      · simp [hname, ih]

theorem exact_toList_tableOf (names : List String) : Exact (tableOf names).toList names where
  distinct := by
    refine List.Pairwise.imp ?_ Std.HashMap.distinct_keys_toList
    intro left right hne
    simpa using hne
  mem_iff := by
    intro name number
    rw [Std.HashMap.mem_toList_iff_getElem?_eq_some, getElem?_tableOf]
    split
    next hzero => simp only [reduceCtorEq, false_iff]; omega
    next hpos => rw [Option.some_inj]; omega

/-! ## Totals -/

theorem sum_bump (name : String) (counts : Counts) :
    ((counts.bump name).map Prod.snd).sum = (counts.map Prod.snd).sum + 1 := by
  induction counts with
  | nil => rfl
  | cons first counts ih =>
      obtain ⟨key, number⟩ := first
      rw [bump]
      split
      next => simp only [List.map_cons, List.sum_cons]; omega
      next =>
        split
        next => simp only [List.map_cons, List.sum_cons]; omega
        next => simp only [List.map_cons, List.sum_cons, ih]; omega

theorem sum_of (names : List String) : ((of names).map Prod.snd).sum = names.length := by
  induction names using List.reverseRecOn with
  | nil => rfl
  | append_singleton names name ih =>
      rw [of_concat, sum_bump, ih, List.length_append, List.length_singleton]

/-- Exact counts add up to the number of all names. -/
theorem Exact.sum_eq {counts : Counts} {names : List String} (h : counts.Exact names) :
    (counts.map Prod.snd).sum = names.length := by
  rw [((h.perm (exact_of names)).map Prod.snd).sum_nat, sum_of]

/-! ## Ranks -/

theorem map_toNat_lt {left right : List Char} (h : left < right) :
    left.map Char.toNat < right.map Char.toNat := by
  induction left generalizing right with
  | nil =>
      cases right with
      | nil => exact absurd h (List.not_lt_nil _)
      | cons d right => exact List.nil_lt_cons _ _
  | cons c left ih =>
      cases right with
      | nil => exact absurd h (List.not_lt_nil _)
      | cons d right =>
          rw [List.map_cons, List.map_cons, List.cons_lt_cons_iff]
          rcases List.cons_lt_cons_iff.mp h with hlt | ⟨rfl, hlt⟩
          · exact .inl hlt
          · exact .inr ⟨rfl, ih hlt⟩

theorem codePoints_lt {left right : String} (h : left < right) :
    codePoints left < codePoints right :=
  map_toNat_lt h

theorem Precedes.asymm {left right : String × Nat} (h : Precedes left right) :
    ¬ Precedes right left := by
  intro hback
  rcases h with hlt | ⟨heq, hlt⟩ <;> rcases hback with hltBack | ⟨heqBack, hltBack⟩
  · omega
  · omega
  · omega
  · exact List.lt_asymm hlt hltBack

theorem comesFirst_trans (first second third : String × Nat)
    (hfirst : comesFirst first second = true) (hsecond : comesFirst second third = true) :
    comesFirst first third = true := by
  simp only [comesFirst, Bool.or_eq_true, Bool.and_eq_true, decide_eq_true_eq] at *
  rcases hfirst with hlt | ⟨heq, hle⟩ <;> rcases hsecond with hltNext | ⟨heqNext, hleNext⟩
  · exact .inl (Nat.lt_trans hltNext hlt)
  · exact .inl (heqNext ▸ hlt)
  · exact .inl (heq ▸ hltNext)
  · exact .inr ⟨heq.trans heqNext, String.le_trans hle hleNext⟩

theorem comesFirst_total (left right : String × Nat) :
    (comesFirst left right || comesFirst right left) = true := by
  simp only [comesFirst, Bool.or_eq_true, Bool.and_eq_true, decide_eq_true_eq]
  rcases Nat.lt_trichotomy left.2 right.2 with hlt | heq | hlt
  · exact .inr (.inl hlt)
  · rcases String.le_total left.1 right.1 with hle | hle
    · exact .inl (.inr ⟨heq, hle⟩)
    · exact .inr (.inr ⟨heq.symm, hle⟩)
  · exact .inl (.inl hlt)

/-- Of two entries that are sorted by counts and names, one precedes the other, because their
names differ. -/
theorem precedes_of_comesFirst {left right : String × Nat} (h : comesFirst left right = true)
    (hne : left.1 ≠ right.1) : Precedes left right := by
  simp only [comesFirst, Bool.or_eq_true, Bool.and_eq_true, decide_eq_true_eq] at h
  rcases h with hlt | ⟨heq, hle⟩
  · exact .inl hlt
  · exact .inr ⟨heq, codePoints_lt (Std.lt_of_le_of_ne hle hne)⟩

theorem pairwise_ranked {counts : Counts} (h : counts.Distinct) :
    counts.ranked.Pairwise Precedes := by
  have hdistinct : counts.ranked.Pairwise fun left right => left.1 ≠ right.1 :=
    (List.mergeSort_perm counts comesFirst).symm.pairwise h fun hne => Ne.symm hne
  have hsorted : counts.ranked.Pairwise fun left right => comesFirst left right = true :=
    List.pairwise_mergeSort comesFirst_trans comesFirst_total counts
  exact (hsorted.and hdistinct).imp fun ⟨hfirst, hne⟩ => precedes_of_comesFirst hfirst hne

theorem mostFrequentFirst_trans (first second third : String × Nat)
    (hfirst : decide (second.2 ≤ first.2) = true) (hsecond : decide (third.2 ≤ second.2) = true) :
    decide (third.2 ≤ first.2) = true := by
  simp only [decide_eq_true_eq] at *
  exact Nat.le_trans hsecond hfirst

theorem mostFrequentFirst_total (left right : String × Nat) :
    (decide (right.2 ≤ left.2) || decide (left.2 ≤ right.2)) = true := by
  simp only [Bool.or_eq_true, decide_eq_true_eq]
  exact Nat.le_total ..

/-- Entries with equal counts keep their order. -/
theorem filter_mostFrequentFirst (counts : Counts) (number : Nat) :
    counts.mostFrequentFirst.filter (fun entry => entry.2 = number) =
      counts.filter fun entry => entry.2 = number := by
  have hequal : (counts.filter fun entry => entry.2 = number).Pairwise
      fun left right => decide (right.2 ≤ left.2) = true := by
    apply List.pairwise_of_forall_mem_list
    intro left hleft right hright
    rw [List.mem_filter, decide_eq_true_eq] at hleft hright
    rw [hleft.2, hright.2]
    exact decide_eq_true (Nat.le_refl number)
  -- Entries that are in order already stay in it, and sorting loses none of them.
  have hkept := List.sublist_mergeSort mostFrequentFirst_trans mostFrequentFirst_total hequal
    List.filter_sublist
  have hsublist := hkept.filter fun entry => entry.2 = number
  simp only [List.filter_filter, Bool.and_self] at hsublist
  refine (hsublist.eq_of_length ?_).symm
  exact ((List.mergeSort_perm counts _).symm.filter _).length_eq

/-- Entries that ascend by their names are ranked by sorting them for their counts alone. -/
theorem pairwise_mostFrequentFirst {counts : Counts} (h : counts.Ascending) :
    counts.mostFrequentFirst.Pairwise Precedes := by
  have hsorted : counts.mostFrequentFirst.Pairwise fun left right =>
      decide (right.2 ≤ left.2) = true :=
    List.pairwise_mergeSort mostFrequentFirst_trans mostFrequentFirst_total counts
  rw [List.pairwise_iff_forall_sublist] at hsorted ⊢
  intro left right hpair
  rcases Nat.lt_or_eq_of_le (of_decide_eq_true (hsorted hpair)) with hlt | heq
  · exact .inl hlt
  · have hequal : (counts.mostFrequentFirst.filter fun entry => entry.2 = left.2).Pairwise
        fun first second => first.1 < second.1 := by
      rw [filter_mostFrequentFirst]
      exact List.Pairwise.filter _ h
    have hascends := List.pairwise_iff_forall_sublist.mp (List.pairwise_filter.mp hequal) hpair
    exact .inr ⟨heq.symm, codePoints_lt (hascends (decide_eq_true rfl) (decide_eq_true heq))⟩

/-- Entries can be ranked in one way only. -/
theorem ranked_eq_of_perm {counts others : Counts} (h : counts.Distinct)
    (hperm : counts.Perm others) (hothers : others.Pairwise Precedes) :
    counts.ranked = others := by
  have hmoved : counts.ranked.Perm others := (List.mergeSort_perm counts comesFirst).trans hperm
  refine hmoved.eq_of_pairwise ?_ (pairwise_ranked h) hothers
  intro left right _ _ hleft hright
  exact absurd hright hleft.asymm

end Counts

/-! ## Tallies -/

/-- The text that a field holds, or the one that stands in for it. -/
def textAt (key other : String) (value : Value) : String :=
  match value.get? key with
  | some (.string text) => text
  | _ => other

/-- What a tally says about the findings it counts. -/
structure Tally.Describes (tally : Tally) (found : List Value) : Prop where
  total : tally.total = found.length
  byRule : tally.byRule.Exact (found.map (textAt "ruleId" "<none>"))
  byRule_ranked : tally.byRule.Pairwise Counts.Precedes
  byLevel : tally.byLevel.Exact (found.map (textAt "level" "warning"))
  sum_byRule : (tally.byRule.map Prod.snd).sum = tally.total
  sum_byLevel : (tally.byLevel.map Prod.snd).sum = tally.total
  /-- In whatever order a table gives the counts of the rules, they rank like this. -/
  ranked_table : ∀ entries : Counts,
    entries.Perm (Counts.tableOf (found.map (textAt "ruleId" "<none>"))).toList →
      entries.ranked = tally.byRule

theorem getD_text?_eq_textAt (key other : String) (value : Value) :
    ((value.get? key).bind Value.text?).getD other = textAt key other value := by
  unfold textAt
  cases value.get? key with
  | none => rfl
  | some found => cases found <;> rfl

/-- A tally counts the results that are objects, and nothing else about it is left open. -/
theorem tally_describes (fallback : String) (report : Value) :
    (tally fallback report).Describes ((allResults report).filter Value.isObject) := by
  have hrules : ruleKey = textAt "ruleId" "<none>" := funext (getD_text?_eq_textAt _ _)
  have hlevels : levelKey = textAt "level" "warning" := funext (getD_text?_eq_textAt _ _)
  have hfound : (runs report).flatMap findings = (allResults report).filter Value.isObject :=
    allFindings_eq_filter report
  have hbyRule : (tally fallback report).byRule.Exact
      (((allResults report).filter Value.isObject).map (textAt "ruleId" "<none>")) := by
    rw [← hfound, ← hrules]
    exact (Counts.exact_of _).of_perm (List.mergeSort_perm _ _).symm
  have hbyLevel : (tally fallback report).byLevel.Exact
      (((allResults report).filter Value.isObject).map (textAt "level" "warning")) := by
    rw [← hfound, ← hlevels]
    exact Counts.exact_of _
  have htotal : (tally fallback report).total =
      ((allResults report).filter Value.isObject).length :=
    congrArg List.length hfound
  have hranked : (tally fallback report).byRule.Pairwise Counts.Precedes :=
    Counts.pairwise_mostFrequentFirst (Counts.ascending_of _)
  constructor
  · exact htotal
  · exact hbyRule
  · exact hranked
  · exact hbyLevel
  · rw [hbyRule.sum_eq, htotal, List.length_map]
  · rw [hbyLevel.sum_eq, htotal, List.length_map]
  · intro entries hentries
    have hexact := (Counts.exact_toList_tableOf _).of_perm hentries.symm
    exact Counts.ranked_eq_of_perm hexact.distinct (hexact.perm hbyRule) hranked

end Suppression.Sarif
