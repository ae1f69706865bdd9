import Suppression.Proofs.Glob.Language
import Suppression.Text.Blank

/-!
# Literal globs

A text whose stars, question marks and blanks have a backslash in front is a glob that
takes every character as it is. It describes the candidates whose parts are the
components of the text, and with a final component `**` those whose parts begin with them.
-/

namespace Suppression

namespace Text

/-- Put a backslash in front of the characters that satisfy `special`. -/
def shield (special : Char → Bool) (text : List Char) : List Char :=
  text.flatMap fun c => if special c then ['\\', c] else [c]

variable {special : Char → Bool}

@[simp] theorem shield_nil : shield special [] = [] := rfl

theorem shield_cons (c : Char) (text : List Char) :
    shield special (c :: text) =
      if special c then '\\' :: c :: shield special text else c :: shield special text := by
  unfold shield
  rw [List.flatMap_cons]
  split <;> rfl

@[simp] theorem shield_append (first second : List Char) :
    shield special (first ++ second) = shield special first ++ shield special second :=
  List.flatMap_append

@[simp] theorem shield_eq_nil_iff {text : List Char} : shield special text = [] ↔ text = [] := by
  cases text with
  | nil => simp
  | cons c text =>
      rw [shield_cons]
      split <;> simp

theorem getLast?_shield (text : List Char) : (shield special text).getLast? = text.getLast? := by
  rcases List.eq_nil_or_concat text with rfl | ⟨front, c, rfl⟩
  · rfl
  · rw [List.concat_eq_append, shield_append, shield_cons]
    split <;> simp [List.getLast?_append, List.getLast?_cons]

/-- Backslashes do not change where a text is cut. -/
theorem splitOn_shield {separator : Char} (hseparator : special separator = false)
    (hbackslash : separator ≠ '\\') (text : List Char) :
    (shield special text).splitOn separator =
      (text.splitOn separator).map (shield special) := by
  induction text with
  | nil => simp [List.splitOn_eq_splitOnP]
  | cons c text ih =>
      -- Every split has a first piece, which the character joins unless it separates.
      have hne := List.splitOn_ne_nil separator text
      obtain ⟨first, rest, hsplit⟩ := List.exists_cons_of_ne_nil hne
      rw [hsplit] at ih
      by_cases hc : c = separator
      · subst hc
        rw [shield_cons, hseparator]
        simp [List.splitOn_cons_eq_if_modifyHead, ih, hsplit]
      · have hcut : (c :: text).splitOn separator = (c :: first) :: rest := by
          simp [List.splitOn_cons_eq_if_modifyHead, hc, hsplit]
        rw [hcut, shield_cons, List.map_cons, shield_cons]
        split <;> simp [List.splitOn_cons_eq_if_modifyHead, hc, hbackslash.symm, ih]

theorem dropFinal_shield {c : Char} (hc : special c = false) (text : List Char) :
    dropFinal c (shield special text) = shield special (dropFinal c text) := by
  by_cases hlast : text.getLast? = some c
  · obtain ⟨front, rfl⟩ := List.getLast?_eq_some_iff.mp hlast
    rw [shield_append, shield_cons, hc, dropFinal_concat]
    exact dropFinal_concat c _
  · rw [dropFinal_of_getLast?_ne hlast,
      dropFinal_of_getLast?_ne (by rwa [getLast?_shield])]

end Text

namespace Glob

open Text

/-- A backslash has to take the meaning of this character in a literal glob away. -/
def isSpecial (c : Char) : Bool :=
  c = '*' || c = '?' || isBlank c

theorem starsAhead_eq_false {text : List Char} (h : text.head? ≠ some '*') :
    starsAhead text = false := by
  rw [← Bool.not_eq_true, starsAhead_iff]
  intro hcut
  obtain ⟨rest, rfl⟩ := hcut
  exact h rfl

theorem starsAhead_cons_eq_false {text : List Char} (h : text.head? ≠ some '*') (c : Char) :
    starsAhead (c :: text) = false := by
  rw [← Bool.not_eq_true, starsAhead_iff]
  intro hcut
  obtain ⟨rest, hcons⟩ := hcut
  cases hcons
  exact h rfl

theorem gluedStarsAhead_eq_false {text : List Char} (h : starsAhead text = false) :
    gluedStarsAhead text = false := by
  rw [← Bool.not_eq_true, starsAhead_iff] at h
  rw [← Bool.not_eq_true, gluedStarsAhead_iff]
  intro hcut
  obtain ⟨c, rest, rfl, -⟩ := hcut
  exact h ⟨c :: rest, rfl⟩

/-- A character that no two stars follow and that starts no two glues nothing. -/
theorem hasGluedStars_cons {c : Char} {text : List Char} (h : starsAhead text = false)
    (hcons : starsAhead (c :: text) = false) :
    hasGluedStars (c :: text) = hasGluedStars text := by
  have hglued := gluedStarsAhead_eq_false h
  have hgluedCons := gluedStarsAhead_eq_false hcons
  simp [hasGluedStars, anyAfter, h, hglued, hgluedCons]

theorem head?_shield_append_ne {behind : List Char} (h : behind.head? ≠ some '*')
    (text : List Char) : (shield isSpecial text ++ behind).head? ≠ some '*' := by
  cases text with
  | nil => exact h
  | cons c text =>
      rw [shield_cons]
      split
      next => simp
      next hc =>
        rw [List.cons_append, List.head?_cons, ne_eq, Option.some.injEq]
        intro heq
        subst heq
        exact hc rfl

/-- Shielded stars are glued to nothing. -/
theorem hasGluedStars_shield_append {behind : List Char} (h : behind.head? ≠ some '*')
    (text : List Char) :
    hasGluedStars (shield isSpecial text ++ behind) = hasGluedStars behind := by
  induction text with
  | nil => rfl
  | cons c text ih =>
      -- No star stands bare at the start of what is shielded, so no two stars follow a character.
      have hhead := head?_shield_append_ne h text
      have hstep : hasGluedStars (c :: (shield isSpecial text ++ behind)) =
          hasGluedStars (shield isSpecial text ++ behind) :=
        hasGluedStars_cons (starsAhead_eq_false hhead) (starsAhead_cons_eq_false hhead c)
      rw [shield_cons]
      split
      · rw [List.cons_append, List.cons_append,
          hasGluedStars_cons (starsAhead_cons_eq_false hhead c) rfl, hstep, ih]
      · rw [List.cons_append, hstep, ih]

theorem hasGluedStars_shield (text : List Char) :
    hasGluedStars (shield isSpecial text) = false := by
  have hnone : ([] : List Char).head? ≠ some '*' := by simp
  rw [← List.append_nil (shield isSpecial text), hasGluedStars_shield_append hnone]
  rfl

/-- A shielded component spells itself and nothing else. -/
theorem spells_shield_iff {text part : List Char} (h : '\\' ∉ text) :
    Spells (shield isSpecial text) part ↔ part = text := by
  induction text generalizing part with
  | nil => simp [Spells]
  | cons c text ih =>
      rw [List.mem_cons, not_or] at h
      rw [shield_cons]
      split
      next hc => simp [Spells, ih h.2]
      next hc =>
        have hstar : c ≠ '*' := by
          intro heq
          subst heq
          exact hc rfl
        have hany : c ≠ '?' := by
          intro heq
          subst heq
          exact hc rfl
        have hbackslash : c ≠ '\\' := fun heq => h.1 heq.symm
        rw [Spells] <;> simp_all

theorem shield_ne_stars (text : List Char) : shield isSpecial text ≠ ['*', '*'] := by
  intro h
  have hnone : ([] : List Char).head? ≠ some '*' := by simp
  have hhead := head?_shield_append_ne hnone text
  simp [h] at hhead

theorem takesParts_shield_iff {component : List Char} (h : '\\' ∉ component)
    {piece : List (List Char)} :
    TakesParts (shield isSpecial component) piece ↔ piece = [component] := by
  simp [TakesParts, shield_ne_stars, spells_shield_iff h]

/-- Components that take a single part each cover the list of these parts. -/
theorem covers_singleton_iff {components inputs : List (List Char)} :
    Covers (fun component piece => piece = [component]) components inputs ↔
      inputs = components := by
  induction components generalizing inputs with
  | nil => simp
  | cons component components ih => simp [covers_cons, ih]

theorem backslash_not_mem_of_mem_componentTexts {text component : List Char}
    (h : '\\' ∉ text) (hcomponent : component ∈ componentTexts text) : '\\' ∉ component := by
  obtain ⟨before, after, rfl, -, -⟩ :=
    exists_of_mem_splitOn (mem_splitOn_of_mem_splitOn_dropFinal hcomponent)
  simp_all

theorem covers_map_shield_iff {components inputs : List (List Char)}
    (h : ∀ component ∈ components, '\\' ∉ component) :
    Covers TakesParts (components.map (shield isSpecial)) inputs ↔ inputs = components := by
  rw [covers_map, ← covers_singleton_iff]
  exact covers_congr fun component hcomponent piece _ =>
    takesParts_shield_iff (h component hcomponent)

theorem componentTexts_shield (text : List Char) :
    componentTexts (shield isSpecial text) =
      (componentTexts text).map (shield isSpecial) := by
  rw [componentTexts, componentTexts, dropFinal_shield rfl, splitOn_shield rfl (by decide)]

theorem componentTexts_shield_append_stars {text : List Char} (h : text.getLast? ≠ some '/') :
    componentTexts (shield isSpecial text ++ ['/', '*', '*']) =
      (componentTexts text).map (shield isSpecial) ++ [['*', '*']] := by
  have hlast : (shield isSpecial text ++ ['/', '*', '*']).getLast? ≠ some '/' := by simp
  rw [componentTexts, componentTexts, dropFinal_of_getLast?_ne hlast, dropFinal_of_getLast?_ne h,
    List.splitOn_append_cons_self, splitOn_shield rfl (by decide)]
  rfl

/-- A literal glob describes the candidates that have its components as their parts. -/
theorem accepts_iff_of_source_eq_shield {glob : Glob} {text : List Char}
    (hsource : glob.source.toList = shield isSpecial text) (h : '\\' ∉ text)
    (candidate : String) :
    glob.accepts candidate = true ↔ PartsOf candidate.toList (componentTexts text) := by
  rw [accepts_iff_covers, hsource, componentTexts_shield, partsOf_iff]
  exact covers_map_shield_iff fun _ => backslash_not_mem_of_mem_componentTexts h

/-- With a final `**`, a literal glob describes the candidates whose parts begin with its
components. -/
theorem accepts_iff_of_source_eq_shield_stars {glob : Glob} {text : List Char}
    (hsource : glob.source.toList = shield isSpecial text ++ ['/', '*', '*'])
    (h : '\\' ∉ text) (hlast : text.getLast? ≠ some '/') (candidate : String) :
    glob.accepts candidate = true ↔
      ∃ found, PartsOf candidate.toList found ∧ componentTexts text <+: found := by
  have hstars : ∀ piece, TakesParts ['*', '*'] piece := fun piece => .inl rfl
  rw [accepts_iff_covers, hsource, componentTexts_shield_append_stars hlast, covers_append]
  simp only [covers_map_shield_iff fun _ => backslash_not_mem_of_mem_componentTexts h,
    partsOf_iff]
  constructor
  · intro hcut
    obtain ⟨_, back, rfl, -, hparts⟩ := hcut
    exact ⟨_, rfl, back, hparts.symm⟩
  · intro hcut
    obtain ⟨_, rfl, back, hparts⟩ := hcut
    refine ⟨_, back, rfl, ?_, hparts.symm⟩
    exact covers_cons.mpr ⟨back, [], hstars back, covers_nil.mpr rfl, by simp⟩

end Glob

end Suppression
