import Suppression.Text.Pieces

/-!
# Cutting at runs

What the functions for cutting a text do, said without them. Cutting at every separator
is splitting a list. Cutting after neighbouring separators have been squeezed gives the
texts between the maximal runs of separators, and these are settled by the text.
-/

namespace Suppression.Text

theorem consFirst_eq_modifyHead {c : Char} {texts : List (List Char)} (h : texts ≠ []) :
    consFirst c texts = texts.modifyHead (c :: ·) := by
  cases texts with
  | nil => exact absurd rfl h
  | cons first rest => rfl

theorem pieces_eq_splitOnP (separates : Char → Bool) (text : List Char) :
    pieces separates text = text.splitOnP separates := by
  induction text with
  | nil => rfl
  | cons c text ih =>
      rw [pieces_cons, List.splitOnP_cons_eq_if_modifyHead, ih,
        consFirst_eq_modifyHead (List.splitOnP_ne_nil _ _)]

theorem pieces_eq_splitOn (separator : Char) (text : List Char) :
    pieces (· = separator) text = text.splitOn separator := by
  rw [pieces_eq_splitOnP, List.splitOn_eq_splitOnP]
  rfl

theorem not_mem_of_mem_splitOn {c : Char} {text piece : List Char}
    (h : piece ∈ text.splitOn c) : c ∉ piece := by
  intro hc
  rw [← pieces_eq_splitOn] at h
  simpa using separates_eq_false_of_mem_pieces h hc

@[simp] theorem dropFinal_concat (c : Char) (text : List Char) :
    dropFinal c (text ++ [c]) = text := by
  simp [dropFinal]

theorem dropFinal_of_getLast?_ne {c : Char} {text : List Char} (h : text.getLast? ≠ some c) :
    dropFinal c text = text := by
  simp [dropFinal, h]

/-- Dropping a final separator drops no piece but an empty one. -/
theorem mem_splitOn_of_mem_splitOn_dropFinal {c : Char} {text piece : List Char}
    (h : piece ∈ (dropFinal c text).splitOn c) : piece ∈ text.splitOn c := by
  by_cases hlast : text.getLast? = some c
  · obtain ⟨front, rfl⟩ := List.getLast?_eq_some_iff.mp hlast
    rw [dropFinal_concat] at h
    rw [List.splitOn_append_cons_self]
    exact List.mem_append_left _ h
  · rwa [dropFinal_of_getLast?_ne hlast] at h

/-- Every piece of a split stands in the text, between separators or ends of the text. -/
theorem exists_of_mem_splitOn {c : Char} {text piece : List Char} (h : piece ∈ text.splitOn c) :
    ∃ before after, text = before ++ piece ++ after ∧ (before = [] ∨ before.getLast? = some c) ∧
      (after = [] ∨ after.head? = some c) := by
  -- One piece is cut off in front, and the others are cut from the shorter text behind it.
  induction hlength : text.length using Nat.strongRecOn generalizing text piece with
  | ind length ih =>
      by_cases hc : c ∈ text
      · obtain ⟨front, back, rfl, hfront⟩ := List.eq_append_cons_of_mem hc
        rw [List.splitOn_append_cons_self_of_not_mem hfront] at h
        rcases List.mem_cons.mp h with rfl | h
        · exact ⟨[], c :: back, by simp, .inl rfl, .inr rfl⟩
        · have hshorter : back.length < length := by
            rw [← hlength, List.length_append, List.length_cons]
            omega
          obtain ⟨before, after, hback, hbefore, hafter⟩ := ih back.length hshorter h rfl
          refine ⟨front ++ c :: before, after, by simp [hback], .inr ?_, hafter⟩
          rcases hbefore with rfl | hbefore <;> simp [List.getLast?_cons, *]
      · rw [List.splitOn_eq_singleton hc, List.mem_singleton] at h
        subst h
        exact ⟨[], [], by simp, .inl rfl, .inl rfl⟩

/-- The parts stand between the maximal runs of separators in the text. -/
inductive CutAtRuns (separates : Char → Bool) : List Char → List (List Char) → Prop where
  | last {part : List Char} (hpart : ∀ c ∈ part, separates c = false) :
      CutAtRuns separates part [part]
  | cut {part run text : List Char} {parts : List (List Char)}
      (hpart : ∀ c ∈ part, separates c = false) (hrun : ∀ c ∈ run, separates c = true)
      (hne : run ≠ []) (hmaximal : ∀ c ∈ text.head?, separates c = false)
      (hrest : CutAtRuns separates text parts) :
      CutAtRuns separates (part ++ run ++ text) (part :: parts)

section Squeeze

variable {separates : Char → Bool}

theorem head?_squeeze_any (text : List Char) :
    (squeeze separates text).head?.any separates = text.head?.any separates := by
  cases text with
  | nil => rfl
  | cons c text =>
      rw [squeeze_cons]
      split
      next h =>
        rw [Bool.and_eq_true] at h
        rw [h.2]
        exact h.1.symm
      next => rfl

theorem squeeze_append_of_forall_mem {part : List Char} (h : ∀ c ∈ part, separates c = false)
    (text : List Char) : squeeze separates (part ++ text) = part ++ squeeze separates text := by
  induction part with
  | nil => rfl
  | cons c part ih =>
      have hc := h c List.mem_cons_self
      have hpart := ih fun d hd => h d (List.mem_cons_of_mem _ hd)
      rw [List.cons_append, squeeze_cons, hc, hpart]
      rfl

/-- One separator is left of a run. -/
theorem squeeze_run_append {run text : List Char} (hrun : ∀ c ∈ run, separates c = true)
    (hne : run ≠ []) (hmaximal : ∀ c ∈ text.head?, separates c = false) :
    ∃ c, separates c = true ∧ squeeze separates (run ++ text) = c :: squeeze separates text := by
  induction run with
  | nil => exact absurd rfl hne
  | cons c run ih =>
      have hc := hrun c List.mem_cons_self
      cases run with
      | nil =>
          have hhead : text.head?.any separates = false := by
            rw [Option.any_eq_false]
            simpa using hmaximal
          refine ⟨c, hc, ?_⟩
          rw [List.singleton_append, squeeze_cons, head?_squeeze_any, hhead, Bool.and_false]
          rfl
      | cons d run =>
          have hd := hrun d (List.mem_cons_of_mem _ List.mem_cons_self)
          obtain ⟨kept, hkept, hsqueeze⟩ :=
            ih (fun e he => hrun e (List.mem_cons_of_mem _ he)) (List.cons_ne_nil _ _)
          refine ⟨kept, hkept, ?_⟩
          rw [List.cons_append, squeeze_cons, head?_squeeze_any, hsqueeze]
          simp [hc, hd]

theorem exists_cutAtRuns (separates : Char → Bool) (text : List Char) :
    ∃ parts, CutAtRuns separates text parts := by
  induction text with
  | nil => exact ⟨[[]], .last (by simp)⟩
  | cons c text ih =>
      obtain ⟨parts, hparts⟩ := ih
      cases hc : separates c with
      | false =>
          cases hparts with
          | last hpart => exact ⟨_, .last (List.forall_mem_cons.mpr ⟨hc, hpart⟩)⟩
          | cut hpart hrun hne hmaximal hrest =>
              exact ⟨_, .cut (List.forall_mem_cons.mpr ⟨hc, hpart⟩) hrun hne hmaximal hrest⟩
      | true =>
          -- The separator starts a run, unless the text behind it starts with one already.
          have hstart : (∀ d ∈ text.head?, separates d = false) →
              ∃ parts, CutAtRuns separates (c :: text) parts := by
            intro hmaximal
            have hcut : CutAtRuns separates ([] ++ [c] ++ text) ([] :: parts) :=
              .cut (by simp) (by simpa using hc) (by simp) hmaximal hparts
            exact ⟨_, hcut⟩
          cases hparts with
          | last hpart => exact hstart fun d hd => hpart d (List.mem_of_mem_head? hd)
          | @cut part run rest parts hpart hrun hne hmaximal hrest =>
              cases part with
              | nil =>
                  have hcut : CutAtRuns separates ([] ++ (c :: run) ++ rest) ([] :: parts) :=
                    .cut (by simp) (List.forall_mem_cons.mpr ⟨hc, hrun⟩) (by simp) hmaximal hrest
                  exact ⟨_, hcut⟩
              | cons d part => exact hstart (by simpa using hpart d List.mem_cons_self)

/-- The pieces of a squeezed text are the parts between the maximal runs of separators. -/
theorem pieces_squeeze_eq_iff {text : List Char} {parts : List (List Char)} :
    pieces separates (squeeze separates text) = parts ↔ CutAtRuns separates text parts := by
  have hunique : ∀ {parts}, CutAtRuns separates text parts →
      pieces separates (squeeze separates text) = parts := by
    intro parts hparts
    induction hparts with
    | @last part hpart =>
        have hsqueeze := squeeze_append_of_forall_mem hpart []
        rw [List.append_nil, squeeze_nil, List.append_nil] at hsqueeze
        rw [hsqueeze, pieces_eq_singleton hpart]
    | cut hpart hrun hne hmaximal _ ih =>
        obtain ⟨c, hc, hsqueeze⟩ := squeeze_run_append hrun hne hmaximal
        rw [List.append_assoc, squeeze_append_of_forall_mem hpart, hsqueeze, pieces_eq_splitOnP,
          List.splitOnP_append_cons_of_forall_mem hpart c hc, ← pieces_eq_splitOnP, ih]
  constructor
  · intro heq
    subst heq
    obtain ⟨parts, hparts⟩ := exists_cutAtRuns separates text
    rwa [hunique hparts]
  · exact hunique

end Squeeze

end Suppression.Text
