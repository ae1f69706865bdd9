import Suppression.Proofs.Filter.Cutting
import Suppression.Proofs.Glob.Language

/-!
# Which texts are globs

A text is refused for two stars side by side that are not a whole component, unless there is a
backslash directly in front of them. Often it takes the first star along. A backslash that is
itself taken by another one shields the two stars as well, although they are read as stars
then, so some components that hold two stars and more are not refused.
-/

namespace Suppression.Glob

/-- Two stars between these texts are a whole component. -/
def StandAlone (before after : List Char) : Prop :=
  (before = [] ∨ before.getLast? = some '/') ∧ (after = [] ∨ after.head? = some '/')

/-- The number of backslashes that a text ends in. A slash ends their run, so they all stand in
the last component. -/
def backslashesBehind (text : List Char) : Nat := (text.rtakeWhile (· = '\\')).length

/-- Any two stars side by side are a whole component, if the number of backslashes directly in
front of them counts. -/
def StarsStandAlone (counts : Nat → Prop) (text : List Char) : Prop :=
  ∀ before after, text = before ++ '*' :: '*' :: after → counts (backslashesBehind before) →
    StandAlone before after

@[simp] theorem backslashesBehind_concat (text : List Char) (c : Char) :
    backslashesBehind (text ++ [c]) = if c = '\\' then backslashesBehind text + 1 else 0 := by
  rw [backslashesBehind, List.rtakeWhile_concat]
  split <;> simp_all [backslashesBehind]

/-! ## What the tokens say -/

/-- Two stars are read as such if the backslashes in front of them take each other along. -/
theorem tokens_append_stars_iff {before after : List Char} :
    tokens (before ++ '*' :: '*' :: after) = tokens before ++ .star :: .star :: tokens after ↔
      Even (backslashesBehind before) := by
  rw [backslashesBehind, ← Nat.not_odd_iff_even, ← Filter.endsOpen_iff_odd, Bool.not_eq_true]
  fun_induction tokens before with
  | case1 => simp [tokens, Filter.endsOpen]
  | case2 => simp [tokens, Filter.endsOpen]
  | case3 c text ih => simpa [tokens, Filter.endsOpen] using ih
  | case4 text ih => simpa [tokens, Filter.endsOpen_cons] using ih
  | case5 text ih => simpa [tokens, Filter.endsOpen_cons] using ih
  | case6 c text hend hescape hstar hany ih =>
      have hc : c ≠ '\\' := by
        rintro rfl
        cases text with
        | nil => exact hend rfl rfl
        | cons d text => exact hescape d text rfl rfl
      have hread : ∀ rest, tokens (c :: rest) = .literal c :: tokens rest := by
        intro rest
        rw [tokens] <;> simp_all
      rw [Filter.endsOpen_cons hc, List.cons_append, hread, List.cons_append, List.cons.injEq,
        and_iff_right rfl, ih]

/-! ## What is refused -/

theorem gluedStarsAhead_eq_false_iff {after : List Char} :
    gluedStarsAhead ('*' :: '*' :: after) = false ↔ after = [] ∨ after.head? = some '/' := by
  cases after <;> simp [gluedStarsAhead]

theorem hasGluedStars_eq_false_iff {text : List Char} :
    hasGluedStars text = false ↔ StarsStandAlone (· = 0) text := by
  rw [hasGluedStars, Bool.or_eq_false_iff]
  constructor
  · rintro ⟨hstart, hinside⟩ before after rfl hcount
    rcases List.eq_nil_or_concat' before with rfl | ⟨front, c, rfl⟩
    · exact ⟨.inl rfl, gluedStarsAhead_eq_false_iff.mp hstart⟩
    · have hc : c ≠ '\\' := by
        rintro rfl
        simp at hcount
      rw [Bool.eq_false_iff, Ne, anyAfter_iff] at hinside
      have hnone : ¬ ((c ≠ '/' && c ≠ '\\' && starsAhead ('*' :: '*' :: after)) ||
          (c ≠ '\\' && gluedStarsAhead ('*' :: '*' :: after))) = true := fun h =>
        hinside ⟨front, c, '*' :: '*' :: after, by simp, h⟩
      have hslash : c = '/' := by
        by_contra hne
        exact hnone (by simp [hne, hc, starsAhead])
      refine ⟨.inr (by simp [hslash]), gluedStarsAhead_eq_false_iff.mp ?_⟩
      rw [Bool.eq_false_iff]
      intro hglued
      exact hnone (by simp [hc, hglued])
  · intro halone
    constructor
    · rw [Bool.eq_false_iff, Ne, gluedStarsAhead_iff]
      rintro ⟨c, rest, rfl, hc⟩
      have hbehind := (halone [] (c :: rest) rfl rfl).2
      simp [hc] at hbehind
    · rw [Bool.eq_false_iff, Ne, anyAfter_iff]
      rintro ⟨front, c, rest, rfl, htest⟩
      simp only [Bool.or_eq_true, Bool.and_eq_true, decide_eq_true_eq, starsAhead_iff,
        gluedStarsAhead_iff] at htest
      rcases htest with ⟨⟨hslash, hc⟩, after, rfl⟩ | ⟨hc, d, after, rfl, hd⟩
      · have hfront := (halone (front ++ [c]) after (by simp) (by simp [hc])).1
        simp [hslash] at hfront
      · have hbehind := (halone (front ++ [c]) (d :: after) (by simp) (by simp [hc])).2
        simp [hd] at hbehind

theorem backslashesBehind_ne_zero {before : List Char} (h : backslashesBehind before ≠ 0) :
    before.getLast? = some '\\' := by
  rcases List.eq_nil_or_concat' before with rfl | ⟨front, c, rfl⟩
  · exact absurd rfl h
  · by_cases hc : c = '\\'
    · simp [hc]
    · simp [hc] at h

/-- A text is a glob if any two stars side by side with no backslash in front are a whole
component. The error names the refused text. Where the tokens are to say which stars stand side
by side, no two of them may stand behind backslashes that take each other along either. -/
theorem parse_eq_ok_iff_starsStandAlone (text : String) :
    ((∃ glob, parse text = .ok glob) ↔ StarsStandAlone (· = 0) text.toList) ∧
    (∀ error, parse text = .error error ↔
      ¬ StarsStandAlone (· = 0) text.toList ∧ error = ⟨text⟩) ∧
    (StarsStandAlone Even text.toList ↔ (∃ glob, parse text = .ok glob) ∧
      ∀ before after, text.toList = before ++ '*' :: '*' :: after →
        Even (backslashesBehind before) → backslashesBehind before = 0) := by
  have hok : (∃ glob, parse text = .ok glob) ↔ StarsStandAlone (· = 0) text.toList := by
    rw [← hasGluedStars_eq_false_iff]
    constructor
    · rintro ⟨glob, hglob⟩
      have hsource := source_of_parse hglob
      rw [← hsource]
      exact glob.wellFormed
    · exact fun h => ⟨_, parse_of_wellFormed h⟩
  refine ⟨hok, ?_, ?_⟩
  · intro error
    rw [parse_eq_error_iff, ← hasGluedStars_eq_false_iff, Bool.not_eq_false]
  · rw [hok]
    constructor
    · intro halone
      refine ⟨fun before after hcut hnone => halone before after hcut (by simp [hnone]), ?_⟩
      intro before after hcut heven
      by_contra hsome
      -- What ends in a backslash is neither empty nor ends in a slash.
      have hlast := backslashesBehind_ne_zero hsome
      rcases (halone before after hcut heven).1 with rfl | hslash
      · exact hsome rfl
      · rw [hlast] at hslash
        cases hslash
    · rintro ⟨halone, hnone⟩ before after hcut heven
      exact halone before after hcut (hnone before after hcut heven)

/-- Two backslashes in front of two stars are one backslash and two stars, which are not refused
although they are no whole component. -/
theorem parse_two_backslashes_two_stars :
    (∃ glob, parse "\\\\**" = .ok glob) ∧
      tokens ['\\', '\\', '*', '*'] = [.literal '\\', .star, .star] ∧
      Even (backslashesBehind ['\\', '\\']) ∧ ¬ StandAlone ['\\', '\\'] [] ∧
      ¬ StarsStandAlone Even "\\\\**".toList := by
  have heven : Even (backslashesBehind ['\\', '\\']) := by decide
  have hglued : ¬ StandAlone ['\\', '\\'] [] := by simp [StandAlone]
  refine ⟨⟨_, parse_of_wellFormed rfl⟩, ?_, heven, hglued, ?_⟩
  · exact (@tokens_append_stars_iff ['\\', '\\'] []).mpr heven
  · intro halone
    exact hglued (halone ['\\', '\\'] [] rfl heven)

end Suppression.Glob
