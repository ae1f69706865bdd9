import Mathlib.Data.List.Chain
import Mathlib.Data.List.Forall2
import Mathlib.Data.List.Infix
import Suppression.Glob.Table

/-!
# Matching by recursion

The table of a pattern holds, for each suffix of the input, what a recursion on the
pattern and the input finds. The recursion is sound for cutting the input into pieces,
one for each item. It is complete when no two neighbouring items span: at the end of
the input it lets a spanning item through only if no other item follows.
-/

namespace Suppression.Glob

/-- The inputs can be cut into consecutive pieces, one for each item, that the items take. -/
def Covers {Item Input : Type} (takes : Item → List Input → Prop) (items : List Item)
    (inputs : List Input) : Prop :=
  ∃ pieces, List.Forall₂ takes items pieces ∧ pieces.flatten = inputs

section Covers

variable {Item Input : Type} {takes : Item → List Input → Prop}

@[simp] theorem covers_nil {inputs : List Input} : Covers takes [] inputs ↔ inputs = [] := by
  constructor
  · intro hcut
    obtain ⟨pieces, hpieces, rfl⟩ := hcut
    rw [List.forall₂_nil_left_iff.mp hpieces]
    rfl
  · intro heq
    subst heq
    exact ⟨[], .nil, rfl⟩

theorem covers_cons {item : Item} {items : List Item} {inputs : List Input} :
    Covers takes (item :: items) inputs ↔
      ∃ piece rest, takes item piece ∧ Covers takes items rest ∧ inputs = piece ++ rest := by
  constructor
  · intro hcut
    obtain ⟨pieces, hpieces, rfl⟩ := hcut
    obtain ⟨piece, others, hpiece, hothers, rfl⟩ := List.forall₂_cons_left_iff.mp hpieces
    exact ⟨piece, others.flatten, hpiece, ⟨others, hothers, rfl⟩, rfl⟩
  · intro hcut
    obtain ⟨piece, rest, hpiece, ⟨others, hothers, rfl⟩, rfl⟩ := hcut
    exact ⟨piece :: others, .cons hpiece hothers, rfl⟩

theorem covers_append {first second : List Item} {inputs : List Input} :
    Covers takes (first ++ second) inputs ↔
      ∃ front back, Covers takes first front ∧ Covers takes second back ∧
        inputs = front ++ back := by
  induction first generalizing inputs with
  | nil => simp
  | cons item first ih =>
      simp only [List.cons_append, covers_cons, ih]
      constructor
      · intro hcut
        obtain ⟨piece, _, hpiece, ⟨front, back, hfront, hback, rfl⟩, rfl⟩ := hcut
        exact ⟨piece ++ front, back, ⟨piece, front, hpiece, hfront, rfl⟩, hback, by simp⟩
      · intro hcut
        obtain ⟨_, back, ⟨piece, front, hpiece, hfront, rfl⟩, hback, rfl⟩ := hcut
        exact ⟨piece, front ++ back, hpiece, ⟨front, back, hfront, hback, rfl⟩, by simp⟩

theorem covers_map {Source : Type} (read : Source → Item) {sources : List Source}
    {inputs : List Input} :
    Covers takes (sources.map read) inputs ↔
      Covers (fun source => takes (read source)) sources inputs := by
  simp only [Covers, List.forall₂_map_left_iff]

/-- Only what the items do with pieces of the inputs matters. -/
theorem covers_congr {other : Item → List Input → Prop} {items : List Item}
    {inputs : List Input}
    (h : ∀ item ∈ items, ∀ piece, (∀ input ∈ piece, input ∈ inputs) →
      (takes item piece ↔ other item piece)) :
    Covers takes items inputs ↔ Covers other items inputs := by
  induction items generalizing inputs with
  | nil => simp
  | cons item items ih =>
      simp only [covers_cons]
      have hstep : ∀ piece rest, inputs = piece ++ rest →
          ((takes item piece ∧ Covers takes items rest) ↔
            (other item piece ∧ Covers other items rest)) := by
        intro piece rest heq
        subst heq
        refine and_congr (h item List.mem_cons_self piece ?_) (ih ?_)
        · exact fun input hinput => List.mem_append_left _ hinput
        · intro later hlater inner hinner
          apply h later (List.mem_cons_of_mem _ hlater) inner
          intro input hinput
          exact List.mem_append_right _ (hinner input hinput)
      constructor
      · intro hcut
        obtain ⟨piece, rest, hpiece, hrest, hcut⟩ := hcut
        obtain ⟨hpiece, hrest⟩ := (hstep piece rest hcut).mp ⟨hpiece, hrest⟩
        exact ⟨piece, rest, hpiece, hrest, hcut⟩
      · intro hcut
        obtain ⟨piece, rest, hpiece, hrest, hcut⟩ := hcut
        obtain ⟨hpiece, hrest⟩ := (hstep piece rest hcut).mpr ⟨hpiece, hrest⟩
        exact ⟨piece, rest, hpiece, hrest, hcut⟩

end Covers

namespace Rules

variable {Item Input : Type} (rules : Rules Item Input)

/-- Matching by recursion. A spanning item takes one more input or gives way to the items
after it. -/
def matchesFrom : List Item → List Input → Bool
  | [], inputs => inputs.isEmpty
  | item :: pattern, [] => rules.spans item && pattern.isEmpty
  | item :: pattern, input :: inputs =>
      if rules.spans item then
        matchesFrom (item :: pattern) inputs || matchesFrom pattern (input :: inputs)
      else matchesFrom pattern inputs && rules.accepts item input
termination_by pattern inputs => pattern.length + inputs.length

theorem lastRow_eq (inputs : List Input) :
    lastRow inputs = inputs.tails.map (rules.matchesFrom []) := by
  induction inputs with
  | nil => simp [lastRow, matchesFrom]
  | cons input inputs ih =>
      simp only [lastRow, List.foldr_cons, List.tails_cons, List.map_cons] at ih ⊢
      rw [ih]
      simp [matchesFrom]

/-- One row of the table, filled from the row below it. -/
theorem row_eq (item : Item) (pattern : List Item) (inputs : List Input) :
    rules.row item pattern.isEmpty inputs (inputs.tails.map (rules.matchesFrom pattern)) =
      inputs.tails.map (rules.matchesFrom (item :: pattern)) := by
  induction inputs with
  | nil => simp [row, matchesFrom]
  | cons input inputs ih =>
      -- The row below starts with its cell for all of the inputs, whatever they are.
      obtain ⟨later, htails⟩ : ∃ later, inputs.tails = inputs :: later := by
        cases inputs <;> exact ⟨_, rfl⟩
      simp only [row, htails, List.tails_cons, List.map_cons, List.tail_cons,
        List.zip_cons_cons, List.foldr_cons] at ih ⊢
      rw [ih]
      simp [matchesFrom]

/-- The table holds what the recursion finds on each suffix of the input. -/
theorem table_eq (pattern : List Item) (inputs : List Input) :
    rules.table pattern inputs = inputs.tails.map (rules.matchesFrom pattern) := by
  induction pattern with
  | nil => exact rules.lastRow_eq inputs
  | cons item pattern ih => rw [table, ih, row_eq]

theorem run_eq_matchesFrom (pattern : List Item) (inputs : List Input) :
    rules.run pattern inputs = rules.matchesFrom pattern inputs := by
  rw [run, table_eq]
  cases inputs <;> simp

/-- An item takes a piece: anything if it spans, otherwise one input that it accepts. -/
def Takes (item : Item) (piece : List Input) : Prop :=
  rules.spans item = true ∨
    rules.spans item = false ∧ ∃ input, piece = [input] ∧ rules.accepts item input = true

variable {rules}

theorem takes_of_spans {item : Item} (h : rules.spans item = true) (piece : List Input) :
    rules.Takes item piece :=
  .inl h

theorem takes_iff_of_not_spans {item : Item} (h : rules.spans item = false)
    {piece : List Input} :
    rules.Takes item piece ↔ ∃ input, piece = [input] ∧ rules.accepts item input = true := by
  simp [Takes, h]

/-- A spanning item takes nothing, or the first input and then more. -/
theorem covers_cons_of_spans {item : Item} (h : rules.spans item = true) {pattern : List Item}
    {inputs : List Input} :
    Covers rules.Takes (item :: pattern) inputs ↔
      Covers rules.Takes pattern inputs ∨
        ∃ input rest, inputs = input :: rest ∧ Covers rules.Takes (item :: pattern) rest := by
  simp only [covers_cons]
  constructor
  · intro hcut
    obtain ⟨piece, rest, -, hrest, rfl⟩ := hcut
    cases piece with
    | nil => exact .inl hrest
    | cons input piece =>
        exact .inr ⟨input, piece ++ rest, rfl, piece, rest, takes_of_spans h piece, hrest, rfl⟩
  · intro hcut
    rcases hcut with hnone | ⟨input, _, rfl, piece, rest, -, hrest, rfl⟩
    · exact ⟨[], inputs, takes_of_spans h [], hnone, rfl⟩
    · exact ⟨input :: piece, rest, takes_of_spans h _, hrest, rfl⟩

theorem covers_cons_of_not_spans {item : Item} (h : rules.spans item = false)
    {pattern : List Item} {inputs : List Input} :
    Covers rules.Takes (item :: pattern) inputs ↔
      ∃ input rest, inputs = input :: rest ∧ rules.accepts item input = true ∧
        Covers rules.Takes pattern rest := by
  simp only [covers_cons, takes_iff_of_not_spans h]
  constructor
  · intro hcut
    obtain ⟨_, rest, ⟨input, rfl, hinput⟩, hrest, rfl⟩ := hcut
    exact ⟨input, rest, rfl, hinput, hrest⟩
  · intro hcut
    obtain ⟨input, rest, rfl, hinput, hrest⟩ := hcut
    exact ⟨[input], rest, ⟨input, rfl, hinput⟩, hrest, rfl⟩

/-- The recursion is sound for every pattern. -/
theorem covers_of_matchesFrom {pattern : List Item} {inputs : List Input}
    (h : rules.matchesFrom pattern inputs = true) : Covers rules.Takes pattern inputs := by
  fun_induction matchesFrom rules pattern inputs with
  | case1 inputs => simpa using h
  | case2 item pattern =>
      rw [Bool.and_eq_true, List.isEmpty_iff] at h
      obtain ⟨hspans, rfl⟩ := h
      exact (covers_cons_of_spans hspans).mpr (.inl (covers_nil.mpr rfl))
  | case3 item pattern input inputs hspans ihmore ihskip =>
      rw [Bool.or_eq_true] at h
      rcases h with h | h
      · exact (covers_cons_of_spans hspans).mpr (.inr ⟨input, inputs, rfl, ihmore h⟩)
      · exact (covers_cons_of_spans hspans).mpr (.inl (ihskip h))
  | case4 item pattern input inputs hspans ih =>
      -- The table asks about the items behind first, so the two answers come in this order.
      rw [Bool.and_eq_true] at h
      exact (covers_cons_of_not_spans (Bool.eq_false_iff.mpr hspans)).mpr
        ⟨input, inputs, rfl, h.2, ih h.1⟩

variable (rules)

/-- No two neighbouring items span. -/
def SpansApart (pattern : List Item) : Prop :=
  pattern.IsChain fun first second => ¬ (rules.spans first = true ∧ rules.spans second = true)

variable {rules}

theorem SpansApart.tail {item : Item} {pattern : List Item}
    (h : rules.SpansApart (item :: pattern)) : rules.SpansApart pattern :=
  List.IsChain.tail h

/-- Where no input is left, only spanning items are covered. -/
theorem spans_of_covers_nil {item : Item} {pattern : List Item}
    (h : Covers rules.Takes (item :: pattern) []) : rules.spans item = true := by
  by_contra hspans
  obtain ⟨input, rest, hcut, -⟩ :=
    (covers_cons_of_not_spans (Bool.eq_false_iff.mpr hspans)).mp h
  exact List.cons_ne_nil _ _ hcut.symm

/-- Of items that span apart, at most one is left where no input is. -/
theorem eq_nil_of_covers_nil {item : Item} {pattern : List Item}
    (hapart : rules.SpansApart (item :: pattern))
    (h : Covers rules.Takes (item :: pattern) []) : pattern = [] := by
  have hspans := spans_of_covers_nil h
  cases pattern with
  | nil => rfl
  | cons second pattern =>
      rcases (covers_cons_of_spans hspans).mp h with hrest | ⟨input, rest, hcut, -⟩
      · exact absurd ⟨hspans, spans_of_covers_nil hrest⟩ (List.isChain_cons_cons.mp hapart).1
      · exact absurd hcut.symm (List.cons_ne_nil _ _)

/-- The recursion is complete for patterns whose spanning items stand apart. -/
theorem matchesFrom_of_covers {pattern : List Item} {inputs : List Input}
    (hapart : rules.SpansApart pattern) (h : Covers rules.Takes pattern inputs) :
    rules.matchesFrom pattern inputs = true := by
  fun_induction matchesFrom rules pattern inputs with
  | case1 inputs => simpa using h
  | case2 item pattern =>
      rw [Bool.and_eq_true, List.isEmpty_iff]
      exact ⟨spans_of_covers_nil h, eq_nil_of_covers_nil hapart h⟩
  | case3 item pattern input inputs hspans ihmore ihskip =>
      rw [Bool.or_eq_true]
      rcases (covers_cons_of_spans hspans).mp h with hrest | ⟨_, _, hcut, hrest⟩
      · exact .inr (ihskip hapart.tail hrest)
      · cases hcut
        exact .inl (ihmore hapart hrest)
  | case4 item pattern input inputs hspans ih =>
      obtain ⟨_, _, hcut, haccepts, hrest⟩ :=
        (covers_cons_of_not_spans (Bool.eq_false_iff.mpr hspans)).mp h
      cases hcut
      rw [Bool.and_eq_true]
      exact ⟨ih hapart.tail hrest, haccepts⟩

/-- A pattern with an item that takes none of the inputs covers nothing. -/
theorem not_covers_of_refuses {pattern : List Item} {item : Item} (hitem : item ∈ pattern)
    (hspans : rules.spans item = false) {inputs : List Input}
    (hrefuses : ∀ input ∈ inputs, rules.accepts item input = false) :
    ¬ Covers rules.Takes pattern inputs := by
  induction pattern generalizing inputs with
  | nil => exact absurd hitem List.not_mem_nil
  | cons first pattern ih =>
      intro hcovers
      obtain ⟨piece, rest, hpiece, hrest, rfl⟩ := covers_cons.mp hcovers
      rcases List.mem_cons.mp hitem with rfl | hlater
      · obtain ⟨input, rfl, haccepts⟩ := (takes_iff_of_not_spans hspans).mp hpiece
        rw [hrefuses input (by simp)] at haccepts
        cases haccepts
      · exact ih hlater (fun input hinput => hrefuses input (List.mem_append_right _ hinput)) hrest

end Rules

end Suppression.Glob
