import Suppression.Glob.Basic
import Suppression.Proofs.Glob.Recursion
import Suppression.Proofs.Text.Runs

/-!
# The language of a glob

What a glob matches, said about its text alone: the parts of a candidate are cut into
consecutive pieces, one for each component as it is written. Nothing is said about
tokens, tables or collapsed runs of `**`.

Tables treat the end of the input more strictly than this language does. The two agree
because runs of `**` are collapsed, and because a glob that is not refused has two stars
side by side in a component only behind a backslash that stands for itself. No part of a
candidate holds such a character.
-/

namespace Suppression.Glob

open Text

/-- The component, character by character, takes the whole part. A final backslash takes
nothing. -/
def Spells : List Char → List Char → Prop
  | [], part => part = []
  | ['\\'], _ => False
  | '\\' :: c :: text, part => ∃ rest, part = c :: rest ∧ Spells text rest
  | '*' :: text, part => ∃ taken rest, part = taken ++ rest ∧ Spells text rest
  | '?' :: text, part => ∃ c rest, part = c :: rest ∧ Spells text rest
  | c :: text, part => ∃ rest, part = c :: rest ∧ Spells text rest

/-- A component `**` takes any parts, and every other one takes a single part. -/
def TakesParts (component : List Char) (piece : List (List Char)) : Prop :=
  component = ['*', '*'] ∨
    component ≠ ['*', '*'] ∧ ∃ part, piece = [part] ∧ Spells component part

/-- The components of a glob, as they are written. -/
def componentTexts (text : List Char) : List (List Char) :=
  (dropFinal '/' text).splitOn '/'

/-- The parts of a candidate stand between its maximal runs of separators. -/
def PartsOf (candidate : List Char) (parts : List (List Char)) : Prop :=
  CutAtRuns isSeparator (dropFinal '/' candidate) parts

/-- The candidates that a glob describes. -/
def Language (text candidate : List Char) : Prop :=
  ∃ parts, PartsOf candidate parts ∧ Covers TakesParts (componentTexts text) parts

theorem partsOf_iff {candidate : List Char} {found : List (List Char)} :
    PartsOf candidate found ↔ parts candidate = found :=
  pieces_squeeze_eq_iff.symm

theorem backslash_not_mem_of_mem_parts {candidate part : List Char}
    (h : part ∈ parts candidate) : '\\' ∉ part := by
  intro hmem
  have hseparator := separates_eq_false_of_mem_pieces h hmem
  exact absurd hseparator (by decide)

/-! ## Tokens -/

@[simp] theorem tokenRules_spans (token : Token) :
    tokenRules.spans token = decide (token = .star) := rfl

@[simp] theorem tokenRules_accepts_anyChar (c : Char) :
    tokenRules.accepts .anyChar c = true := rfl

@[simp] theorem tokenRules_accepts_literal (c input : Char) :
    tokenRules.accepts (.literal c) input = decide (c = input) := rfl

@[simp] theorem tokenRules_accepts_danglingEscape (c : Char) :
    tokenRules.accepts .danglingEscape c = false := rfl

/-- Tokens cover a part as the text they are read from spells it. -/
theorem covers_tokens_iff {component part : List Char} :
    Covers tokenRules.Takes (tokens component) part ↔ Spells component part := by
  fun_induction tokens component generalizing part with
  | case1 => simp [Spells]
  | case2 =>
      rw [Rules.covers_cons_of_not_spans rfl]
      simp [Spells]
  | case3 c text ih =>
      rw [Rules.covers_cons_of_not_spans rfl]
      simp [Spells, ih]
  | case4 text ih =>
      rw [covers_cons]
      simp only [Spells, ih]
      constructor
      · intro hcut
        obtain ⟨taken, rest, -, hrest, rfl⟩ := hcut
        exact ⟨taken, rest, rfl, hrest⟩
      · intro hcut
        obtain ⟨taken, rest, rfl, hrest⟩ := hcut
        exact ⟨taken, rest, Rules.takes_of_spans rfl taken, hrest, rfl⟩
  | case5 text ih =>
      rw [Rules.covers_cons_of_not_spans rfl]
      simp [Spells, ih]
  | case6 c text _ _ _ _ ih =>
      rw [Rules.covers_cons_of_not_spans rfl]
      simp [Spells, ih]

/-! ## Stars side by side -/

theorem starsAhead_iff {text : List Char} :
    starsAhead text = true ↔ ∃ rest, text = '*' :: '*' :: rest := by
  unfold starsAhead
  split <;> simp_all

theorem gluedStarsAhead_iff {text : List Char} :
    gluedStarsAhead text = true ↔ ∃ c rest, text = '*' :: '*' :: c :: rest ∧ c ≠ '/' := by
  unfold gluedStarsAhead
  split <;> simp_all

theorem anyAfter_iff {test : Char → List Char → Bool} {text : List Char} :
    anyAfter test text = true ↔
      ∃ before c after, text = before ++ c :: after ∧ test c after = true := by
  induction text with
  | nil => simp [anyAfter]
  | cons c text ih =>
      rw [anyAfter, Bool.or_eq_true, ih]
      constructor
      · intro hcut
        rcases hcut with h | ⟨before, d, after, rfl, h⟩
        · exact ⟨[], c, text, rfl, h⟩
        · exact ⟨c :: before, d, after, rfl, h⟩
      · intro hcut
        obtain ⟨before, d, after, hcut, h⟩ := hcut
        cases before with
        | nil =>
            cases hcut
            exact .inl h
        | cons e before =>
            cases hcut
            exact .inr ⟨before, d, after, rfl, h⟩

/-- Two stars in a component stand at its end or behind a backslash. -/
structure Unglued (component : List Char) : Prop where
  /-- Nothing follows two stars at the start. -/
  start : ∀ c rest, component ≠ '*' :: '*' :: c :: rest
  /-- Two stars that are not at the start have a backslash in front. -/
  inside : ∀ before c rest, component = before ++ c :: '*' :: '*' :: rest → c = '\\'

theorem unglued_of_mem_componentTexts {text component : List Char}
    (h : hasGluedStars text = false) (hcomponent : component ∈ componentTexts text) :
    Unglued component := by
  have hpiece := mem_splitOn_of_mem_splitOn_dropFinal hcomponent
  have hslash : '/' ∉ component := not_mem_of_mem_splitOn hpiece
  obtain ⟨before, after, rfl, hbefore, -⟩ := exists_of_mem_splitOn hpiece
  rw [hasGluedStars, Bool.or_eq_false_iff, ← Bool.not_eq_true, ← Bool.not_eq_true,
    gluedStarsAhead_iff, anyAfter_iff] at h
  obtain ⟨hstart, hinside⟩ := h
  constructor
  · intro c rest heq
    subst heq
    have hc : c ≠ '/' := by
      intro heq
      subst heq
      simp at hslash
    rcases hbefore with rfl | hbefore
    · exact hstart ⟨c, rest ++ after, by simp, hc⟩
    · obtain ⟨front, rfl⟩ := List.getLast?_eq_some_iff.mp hbefore
      exact hinside ⟨front, '/', '*' :: '*' :: c :: (rest ++ after), by simp,
        by simp [gluedStarsAhead, hc]⟩
  · intro front c rest heq
    subst heq
    have hc : c ≠ '/' := by
      intro heq
      subst heq
      simp at hslash
    by_contra hshield
    exact hinside ⟨before ++ front, c, '*' :: '*' :: (rest ++ after), by simp,
      by simp [starsAhead, hc, hshield]⟩

theorem spansApart_cons_of_ne_star {token : Token} {pattern : List Token}
    (htoken : token ≠ .star) (h : tokenRules.SpansApart pattern) :
    tokenRules.SpansApart (token :: pattern) := by
  cases pattern with
  | nil => exact .singleton _
  | cons next pattern => exact .cons_cons (by simp [htoken]) h

theorem exists_of_head?_tokens {text : List Char} (h : (tokens text).head? = some .star) :
    ∃ rest, text = '*' :: rest := by
  unfold tokens at h
  split at h <;> simp_all

/-- What the reading of tokens carries along: stars stand apart, or a backslash stands for
itself, or the text starts with two stars that have no character in front. -/
def StarsSettled (text : List Char) : Prop :=
  tokenRules.SpansApart (tokens text) ∨ .literal '\\' ∈ tokens text ∨
    ∃ rest, text = '*' :: '*' :: rest

/-- A token other than a star keeps what is settled behind it, where no two stars follow. -/
theorem starsSettled_of_tokens_eq {text behind : List Char} {token : Token}
    (htokens : tokens text = token :: tokens behind) (htoken : token ≠ .star)
    (hnostars : ∀ rest, behind ≠ '*' :: '*' :: rest) (h : StarsSettled behind) :
    StarsSettled text := by
  rw [StarsSettled, htokens]
  rcases h with hapart | hmem | ⟨rest, hbehind⟩
  · exact .inl (spansApart_cons_of_ne_star htoken hapart)
  · exact .inr (.inl (List.mem_cons_of_mem _ hmem))
  · exact absurd hbehind (hnostars rest)

theorem starsSettled {text : List Char}
    (h : ∀ before c rest, text = before ++ c :: '*' :: '*' :: rest → c = '\\') :
    StarsSettled text := by
  -- The hypothesis is about the text behind one token, which may start with two stars even
  -- though the whole text does not.
  fun_induction tokens text with
  | case1 => exact .inl .nil
  | case2 => exact .inl (.singleton _)
  | case3 c text ih =>
      have hbehind := ih fun before d rest htext => h ('\\' :: c :: before) d rest (by simp [htext])
      by_cases hc : c = '\\'
      · -- A backslash that stands for itself settles whatever comes behind it.
        subst hc
        exact .inr (.inl List.mem_cons_self)
      · refine starsSettled_of_tokens_eq rfl (by simp) ?_ hbehind
        intro rest heq
        subst heq
        exact hc (h ['\\'] c rest rfl)
  | case4 text ih =>
      have hbehind := ih fun before d rest htext => h ('*' :: before) d rest (by simp [htext])
      rcases hbehind with hapart | hmem | ⟨rest, rfl⟩
      · by_cases hstar : (tokens text).head? = some .star
        · obtain ⟨rest, rfl⟩ := exists_of_head?_tokens hstar
          exact .inr (.inr ⟨rest, rfl⟩)
        · refine .inl (List.isChain_cons.mpr ⟨?_, hapart⟩)
          intro token htoken hspans
          have htoken' : token = .star := by simpa using hspans.2
          exact hstar (htoken' ▸ htoken)
      · exact .inr (.inl (List.mem_cons_of_mem _ hmem))
      · exact absurd (h [] '*' rest rfl) (by decide)
  | case5 text ih =>
      have hbehind := ih fun before d rest htext => h ('?' :: before) d rest (by simp [htext])
      refine starsSettled_of_tokens_eq rfl (by simp) ?_ hbehind
      intro rest heq
      subst heq
      exact absurd (h [] '?' rest rfl) (by decide)
  | case6 c text hend hescape hstar hany ih =>
      have hbehind := ih fun before d rest htext => h (c :: before) d rest (by simp [htext])
      have hc : c ≠ '\\' := by
        intro heq
        subst heq
        cases text with
        | nil => exact hend rfl rfl
        | cons d text => exact hescape d text rfl rfl
      have htokens : tokens (c :: text) = .literal c :: tokens text := by
        rw [tokens] <;> assumption
      refine starsSettled_of_tokens_eq htokens (by simp) ?_ hbehind
      intro rest heq
      subst heq
      exact hc (h [] c rest rfl)

/-- The stars of a component other than `**` stand apart, or it asks for a backslash. -/
theorem Unglued.spansApart_or_mem {component : List Char} (h : Unglued component)
    (hne : component ≠ ['*', '*']) :
    tokenRules.SpansApart (tokens component) ∨ .literal '\\' ∈ tokens component := by
  rcases starsSettled h.inside with hapart | hmem | ⟨rest, rfl⟩
  · exact .inl hapart
  · exact .inr hmem
  · cases rest with
    | nil => exact absurd rfl hne
    | cons c rest => exact absurd rfl (h.start c rest)

/-- The table of a component finds what the component spells, in a part that candidates
can have. -/
theorem run_tokens_iff {component part : List Char} (h : Unglued component)
    (hne : component ≠ ['*', '*']) (hpart : '\\' ∉ part) :
    tokenRules.run (tokens component) part = true ↔ Spells component part := by
  rw [Rules.run_eq_matchesFrom, ← covers_tokens_iff]
  constructor
  · exact Rules.covers_of_matchesFrom
  · intro hcovers
    rcases h.spansApart_or_mem hne with hapart | hmem
    · exact Rules.matchesFrom_of_covers hapart hcovers
    · -- The recursion may be too strict here, but there is nothing for it to find.
      apply absurd hcovers
      apply Rules.not_covers_of_refuses hmem rfl
      intro c hc
      rw [tokenRules_accepts_literal, decide_eq_false_iff_not]
      intro heq
      subst heq
      exact hpart hc

/-! ## Components -/

/-- Two runs of `**` with nothing between them are one. -/
theorem spansApart_collapse (components : List Component) :
    componentRules.SpansApart (collapse components) := by
  induction components with
  | nil => exact .nil
  | cons component components ih =>
      unfold collapse at ih ⊢
      rw [List.foldr_cons]
      split
      next => exact ih
      next hne =>
        refine List.isChain_cons.mpr ⟨?_, ih⟩
        intro next hnext hspansBoth
        obtain ⟨hspans, hspansNext⟩ := hspansBoth
        have hcomponent : component = .recursive := by simpa [componentRules] using hspans
        have hnext' : next = .recursive := by simpa [componentRules] using hspansNext
        exact hne ⟨hcomponent, hnext' ▸ hnext⟩

/-- A `**` in front of another one adds nothing. -/
theorem covers_recursive_recursive {components : List Component} {inputs : List (List Char)} :
    Covers componentRules.Takes (.recursive :: .recursive :: components) inputs ↔
      Covers componentRules.Takes (.recursive :: components) inputs := by
  simp only [covers_cons]
  constructor
  · intro hcut
    obtain ⟨first, _, -, ⟨second, rest, -, hrest, rfl⟩, rfl⟩ := hcut
    exact ⟨first ++ second, rest, Rules.takes_of_spans rfl _, hrest, by simp⟩
  · intro hcut
    obtain ⟨piece, rest, hpiece, hrest, rfl⟩ := hcut
    exact ⟨[], piece ++ rest, Rules.takes_of_spans rfl _, ⟨piece, rest, hpiece, hrest, rfl⟩, rfl⟩

theorem covers_collapse {components : List Component} {inputs : List (List Char)} :
    Covers componentRules.Takes (collapse components) inputs ↔
      Covers componentRules.Takes components inputs := by
  induction components generalizing inputs with
  | nil => rfl
  | cons component components ih =>
      have hcons : Covers componentRules.Takes (component :: collapse components) inputs ↔
          Covers componentRules.Takes (component :: components) inputs := by
        simp only [covers_cons, ih]
      rw [← hcons]
      unfold collapse
      rw [List.foldr_cons]
      split
      next h =>
        obtain ⟨rfl, hhead⟩ := h
        obtain ⟨rest, hrest⟩ := List.head?_eq_some_iff.mp hhead
        rw [hrest, covers_recursive_recursive]
      next => rfl

/-- A component takes parts as its text does. -/
theorem takes_ofText_iff {component : List Char} (h : Unglued component)
    {piece : List (List Char)} (hpiece : ∀ part ∈ piece, '\\' ∉ part) :
    componentRules.Takes (Component.ofText component) piece ↔ TakesParts component piece := by
  by_cases hstars : component = ['*', '*']
  · subst hstars
    exact iff_of_true (Rules.takes_of_spans rfl piece) (.inl rfl)
  · have htext : Component.ofText component = .segment (tokens component) := if_neg hstars
    rw [htext, Rules.takes_iff_of_not_spans rfl]
    simp only [TakesParts, hstars, false_or, ne_eq, not_false_eq_true, true_and]
    constructor
    · intro hcut
      obtain ⟨part, rfl, haccepts⟩ := hcut
      exact ⟨part, rfl, (run_tokens_iff h hstars (hpiece part (by simp))).mp haccepts⟩
    · intro hcut
      obtain ⟨part, rfl, hspells⟩ := hcut
      exact ⟨part, rfl, (run_tokens_iff h hstars (hpiece part (by simp))).mpr hspells⟩

/-- A glob matches by its components as they are written. -/
theorem accepts_iff_covers (glob : Glob) (candidate : String) :
    glob.accepts candidate = true ↔
      Covers TakesParts (componentTexts glob.source.toList) (parts candidate.toList) := by
  have hwritten : writtenComponents glob.source.toList =
      (componentTexts glob.source.toList).map Component.ofText := by
    rw [writtenComponents, pieces_eq_splitOn, componentTexts]
  rw [accepts, Rules.run_eq_matchesFrom, glob.components_eq]
  calc componentRules.matchesFrom (collapse (writtenComponents glob.source.toList))
          (parts candidate.toList) = true
      ↔ Covers componentRules.Takes (collapse (writtenComponents glob.source.toList))
          (parts candidate.toList) :=
        ⟨Rules.covers_of_matchesFrom, Rules.matchesFrom_of_covers (spansApart_collapse _)⟩
    _ ↔ Covers (fun component => componentRules.Takes (Component.ofText component))
          (componentTexts glob.source.toList) (parts candidate.toList) := by
        rw [covers_collapse, hwritten, covers_map]
    _ ↔ Covers TakesParts (componentTexts glob.source.toList) (parts candidate.toList) := by
        apply covers_congr
        intro component hcomponent piece hpiece
        exact takes_ofText_iff (unglued_of_mem_componentTexts glob.wellFormed hcomponent)
          fun part hpart => backslash_not_mem_of_mem_parts (hpiece part hpart)

/-- A glob matches exactly the candidates that its text describes. -/
theorem accepts_iff_language {text : String} {glob : Glob} (h : parse text = .ok glob)
    (candidate : String) :
    glob.accepts candidate = true ↔ Language text.toList candidate.toList := by
  rw [accepts_iff_covers, source_of_parse h]
  constructor
  · exact fun hcovers => ⟨_, partsOf_iff.mpr rfl, hcovers⟩
  · intro hcut
    obtain ⟨found, hfound, hcovers⟩ := hcut
    rwa [partsOf_iff.mp hfound]

/-- Neighbouring components `**` may both stand for nothing, and a backslash separates. -/
theorem language_of_nested_file :
    ∃ glob, parse "**/**/src/*\\?.r?" = .ok glob ∧
      Language "**/**/src/*\\?.r?".toList "src\\\\lib?.rs/".toList := by
  have hparse :=
    parse_of_wellFormed (show hasGluedStars "**/**/src/*\\?.r?".toList = false by decide)
  exact ⟨_, hparse, (accepts_iff_language hparse _).mp (by decide)⟩

end Suppression.Glob
