import Suppression.Proofs.Filter.Cutting
import Suppression.Proofs.Filter.Parsing

/-!
# Rendering filters

A compiled filter can be written down again, from nothing but the signs of its patterns and
the texts of their globs. Such a text holds a blank only behind a backslash, because a bare
blank would have ended the expression. So the backslashes that shield blanks are still
there, and only those that compiling has taken away have to be put back.
-/

namespace Suppression

open Text

namespace Pattern

/-- A sign, a colon, or a backslash that does not shield a blank. -/
def needsBackslash (c : Char) (behind : List Char) : Bool :=
  c = '+' || c = '-' || c = ':' || (c = '\\' && !behind.head?.any isBlank)

/-- The text of a glob as a part of an expression. -/
def quote : List Char → List Char
  | [] => []
  | c :: text => if needsBackslash c text then '\\' :: c :: quote text else c :: quote text

/-- An expression for the pattern, with its sign and both of its globs. -/
def render (pattern : Pattern) : String :=
  (if pattern.keeps then "+" else "-") ++ String.ofList (quote pattern.file.source.toList) ++
    ":" ++ String.ofList (quote pattern.rule.source.toList)

end Pattern

namespace Filter

/-- The expressions for the patterns, with a space between them. -/
def render (patterns : List Pattern) : String :=
  " ".intercalate (patterns.map Pattern.render)

/-! ## Shielded blanks -/

/-- Every blank stands behind a backslash. -/
inductive BlanksShielded : List Char → Prop where
  | nil : BlanksShielded []
  | blank {c : Char} {text : List Char} (hblank : isBlank c = true) (h : BlanksShielded text) :
      BlanksShielded ('\\' :: c :: text)
  | other {c : Char} {text : List Char} (hblank : isBlank c = false) (h : BlanksShielded text) :
      BlanksShielded (c :: text)

/-- The text of one word: a blank in it belongs to the backslash in front. -/
def Unbroken : List Char → Prop
  | [] => True
  | '\\' :: _ :: text => Unbroken text
  | c :: text => isBlank c = false ∧ Unbroken text

theorem unbroken_cons {c : Char} {text : List Char}
    (hpair : ∀ d rest, c = '\\' → text = d :: rest → False) :
    Unbroken (c :: text) ↔ isBlank c = false ∧ Unbroken text := by
  rw [Unbroken]
  exact hpair

theorem unbroken_of_mem_cutAtBlanks (text : List Char) :
    ∀ piece ∈ cutAtBlanks text, Unbroken piece := by
  fun_induction cutAtBlanks text with
  | case1 => simp [Unbroken]
  | case2 c text ih => exact forall_mem_foldr_consFirst (cutAtBlanks_ne_nil text) ['\\', c] ih ih
  | case3 c text hpair hc ih => exact List.forall_mem_cons.mpr ⟨trivial, ih⟩
  | case4 c text hpair hc ih =>
      have hblank := Bool.eq_false_iff.mpr hc
      refine forall_mem_foldr_consFirst (cutAtBlanks_ne_nil text) [c] ?_ ih
      intro first hfirst
      refine (unbroken_cons ?_).mpr ⟨hblank, ih first hfirst⟩
      -- A single backslash is the last character, so that nothing is cut behind it.
      rintro d rest rfl rfl
      cases text with
      | nil => simp [cutAtBlanks] at hfirst
      | cons e text => exact hpair e text rfl rfl

theorem unbroken_takeSign {text : List Char} (h : Unbroken text) :
    Unbroken (Pattern.takeSign text).2 := by
  unfold Pattern.takeSign
  split
  next rest => exact ((unbroken_cons (by simp)).mp h).2
  next rest => exact ((unbroken_cons (by simp)).mp h).2
  next => exact h

/-- Taking backslashes away uncovers no blank. -/
theorem blanksShielded_of_mem_fields {text : List Char} (h : Unbroken text) :
    ∀ field ∈ Pattern.fields text, BlanksShielded field := by
  fun_induction Pattern.fields text with
  | case1 => simpa using BlanksShielded.nil
  | case2 c text hc ih =>
      have hblank : isBlank c = false := by
        by_contra hblank
        rw [Bool.not_eq_false] at hblank
        simp [isEscapable_eq_false_of_isBlank hblank] at hc
      refine forall_mem_foldr_consFirst (fields_ne_nil text) [c] ?_ (ih h)
      exact fun first hfirst => .other hblank (ih h first hfirst)
  | case3 c text hc ih =>
      refine forall_mem_foldr_consFirst (fields_ne_nil text) ['\\', c] ?_ (ih h)
      intro first hfirst
      cases hblank : isBlank c with
      | true => exact .blank hblank (ih h first hfirst)
      | false => exact .other (by decide) (.other hblank (ih h first hfirst))
  | case4 text hpair ih =>
      obtain ⟨-, htext⟩ := (unbroken_cons hpair).mp h
      exact List.forall_mem_cons.mpr ⟨.nil, ih htext⟩
  | case5 c text hpair hc ih =>
      obtain ⟨hblank, htext⟩ := (unbroken_cons hpair).mp h
      refine forall_mem_foldr_consFirst (fields_ne_nil text) [c] ?_ (ih htext)
      exact fun first hfirst => .other hblank (ih htext first hfirst)

/-! ## Quoting -/

theorem head?_any_isBlank_of_blanksShielded {text : List Char} (h : BlanksShielded text) :
    text.head?.any isBlank = false := by
  cases h with
  | nil => rfl
  | blank hblank h => rfl
  | other hblank h => exact hblank

/-- Without a bare blank behind it, a backslash is quoted as everything else that compiling
takes backslashes away from. -/
theorem quote_cons_of_blanksShielded {text : List Char} (h : BlanksShielded text) (c : Char) :
    Pattern.quote (c :: text) =
      if Pattern.isEscapable c then '\\' :: c :: Pattern.quote text
      else c :: Pattern.quote text := by
  have hneeds : Pattern.needsBackslash c text = Pattern.isEscapable c := by
    rw [Pattern.needsBackslash, Pattern.isEscapable, head?_any_isBlank_of_blanksShielded h,
      Bool.not_false, Bool.and_true]
    exact Bool.or_right_comm _ _ _
  rw [Pattern.quote, hneeds]

theorem quote_cons_cons_of_isBlank {c : Char} (hc : isBlank c = true) {text : List Char}
    (h : BlanksShielded text) :
    Pattern.quote ('\\' :: c :: text) = '\\' :: c :: Pattern.quote text := by
  have hneeds : Pattern.needsBackslash '\\' (c :: text) = false := by
    simp [Pattern.needsBackslash, hc]
  rw [Pattern.quote, hneeds, quote_cons_of_blanksShielded h, isEscapable_eq_false_of_isBlank hc]
  rfl

/-- A quoted text is a part of one word. -/
theorem cutAtBlanks_quote_append {text : List Char} (h : BlanksShielded text)
    (behind : List Char) :
    cutAtBlanks (Pattern.quote text ++ behind) =
      (Pattern.quote text).foldr consFirst (cutAtBlanks behind) := by
  induction h with
  | nil => rfl
  | blank hblank h ih =>
      rw [quote_cons_cons_of_isBlank hblank h, List.cons_append, List.cons_append, cutAtBlanks, ih]
      rfl
  | @other c text hblank h ih =>
      rw [quote_cons_of_blanksShielded h]
      split
      next =>
        rw [List.cons_append, List.cons_append, cutAtBlanks, ih]
        rfl
      next hc =>
        obtain ⟨hbackslash, -⟩ := ne_of_isEscapable_eq_false (Bool.eq_false_iff.mpr hc)
        rw [List.cons_append, cutAtBlanks_cons hbackslash hblank, ih]
        rfl

/-- A quoted text is a part of one field, in which the text stands as it was. -/
theorem fields_quote_append {text : List Char} (h : BlanksShielded text) (behind : List Char) :
    Pattern.fields (Pattern.quote text ++ behind) =
      text.foldr consFirst (Pattern.fields behind) := by
  induction h with
  | nil => rfl
  | blank hblank h ih =>
      rw [quote_cons_cons_of_isBlank hblank h, List.cons_append, List.cons_append, Pattern.fields,
        isEscapable_eq_false_of_isBlank hblank, ih]
      rfl
  | @other c text hblank h ih =>
      rw [quote_cons_of_blanksShielded h]
      split
      next hc =>
        rw [List.cons_append, List.cons_append, Pattern.fields, if_pos hc, ih]
        rfl
      next hc =>
        obtain ⟨hbackslash, hcolon⟩ := ne_of_isEscapable_eq_false (Bool.eq_false_iff.mpr hc)
        rw [List.cons_append, fields_cons hbackslash hcolon, ih]
        rfl

/-! ## Rendered patterns -/

/-- What is known about the texts of a pattern that an expression describes. -/
structure Renderable (pattern : Pattern) : Prop where
  file : BlanksShielded pattern.file.source.toList
  rule : BlanksShielded pattern.rule.source.toList
  rule_ne : pattern.rule.source.toList ≠ []

theorem toList_render (pattern : Pattern) :
    pattern.render.toList = (if pattern.keeps then '+' else '-') ::
      (Pattern.quote pattern.file.source.toList ++
        ':' :: Pattern.quote pattern.rule.source.toList) := by
  cases hkeeps : pattern.keeps <;> simp [Pattern.render, hkeeps]

namespace Renderable

variable {pattern : Pattern} (h : Renderable pattern)
include h

theorem parse_render : Pattern.parse pattern.render = .ok pattern := by
  have hsign : Pattern.takeSign pattern.render.toList = (pattern.keeps,
      Pattern.quote pattern.file.source.toList ++
        ':' :: Pattern.quote pattern.rule.source.toList) := by
    rw [toList_render]
    cases pattern.keeps <;> rfl
  have hfields : Pattern.fields (Pattern.quote pattern.file.source.toList ++
      ':' :: Pattern.quote pattern.rule.source.toList) =
        [pattern.file.source.toList, pattern.rule.source.toList] := by
    have hrule := fields_quote_append h.rule []
    rw [List.append_nil] at hrule
    rw [fields_quote_append h.file, Pattern.fields, if_pos rfl, hrule]
    · simp [Pattern.fields, foldr_consFirst]
    · simp
  obtain ⟨parsed, hparse, hkeeps, hfile, hrule⟩ := exists_parse hsign hfields h.rule_ne
    pattern.file.wellFormed pattern.rule.wellFormed
  rw [hparse, pattern_ext hkeeps hfile hrule]

theorem cutAtBlanks_render_append (behind : List Char) :
    cutAtBlanks (pattern.render.toList ++ behind) =
      pattern.render.toList.foldr consFirst (cutAtBlanks behind) := by
  rw [toList_render, List.cons_append, List.append_assoc, List.cons_append,
    cutAtBlanks_cons (by split <;> decide) (by split <;> decide),
    cutAtBlanks_quote_append h.file, cutAtBlanks_cons (by decide) (by decide),
    cutAtBlanks_quote_append h.rule]
  simp

end Renderable

/-! ## Compiled patterns -/

theorem renderable_of_parse {expression : String} {pattern : Pattern}
    (hword : Unbroken expression.toList) (h : Pattern.parse expression = .ok pattern) :
    Renderable pattern := by
  have hfields := blanksShielded_of_mem_fields (unbroken_takeSign hword)
  obtain ⟨hfile, hrule⟩ := sources_of_parse h
  rcases hrule with hany | ⟨hrule, hne⟩
  · refine ⟨hfields _ hfile, ?_, ?_⟩
    · rw [hany]
      exact .other (by decide) (.other (by decide) .nil)
    · rw [hany]
      decide
  · exact ⟨hfields _ hfile, hfields _ hrule, hne⟩

theorem renderable_of_compile {filter : String} {patterns : List Pattern}
    (h : compile filter = .ok patterns) : ∀ pattern ∈ patterns, Renderable pattern := by
  intro pattern hpattern
  obtain ⟨word, hword, hparse⟩ := exists_mem_of_mapM_eq_ok h pattern hpattern
  obtain ⟨piece, hpiece, rfl⟩ := List.mem_map.mp hword
  apply renderable_of_parse _ hparse
  rw [String.toList_ofList]
  exact unbroken_of_mem_cutAtBlanks _ _ (List.mem_of_mem_filter hpiece)

/-! ## Rendered filters -/

theorem cutAtBlanks_render {patterns : List Pattern} (hne : patterns ≠ [])
    (h : ∀ pattern ∈ patterns, Renderable pattern) :
    cutAtBlanks (render patterns).toList = patterns.map fun pattern => pattern.render.toList := by
  induction patterns with
  | nil => exact absurd rfl hne
  | cons pattern patterns ih =>
      rw [List.forall_mem_cons] at h
      obtain ⟨hpattern, hpatterns⟩ := h
      cases patterns with
      | nil =>
          have hcut := hpattern.cutAtBlanks_render_append []
          rw [List.append_nil] at hcut
          have hlast : render [pattern] = pattern.render := by simp [render]
          rw [hlast, hcut]
          simp [cutAtBlanks, foldr_consFirst]
      | cons second patterns =>
          have hjoin : (render (pattern :: second :: patterns)).toList =
              pattern.render.toList ++ ' ' :: (render (second :: patterns)).toList := by
            simp [render, String.intercalate_cons_cons]
          rw [hjoin, hpattern.cutAtBlanks_render_append, cutAtBlanks_cons_blank (by decide),
            ih (by simp) hpatterns, foldr_consFirst, List.append_nil]
          rfl

theorem words_render {patterns : List Pattern} (h : ∀ pattern ∈ patterns, Renderable pattern) :
    words (render patterns) = patterns.map Pattern.render := by
  cases patterns with
  | nil => rfl
  | cons pattern patterns =>
      rw [words, cutAtBlanks_render (by simp) h, List.filter_eq_self.mpr]
      · simp [Function.comp_def]
      · intro piece hpiece
        obtain ⟨other, -, rfl⟩ := List.mem_map.mp hpiece
        simp [toList_render]

theorem mapM_parse_render {patterns : List Pattern}
    (h : ∀ pattern ∈ patterns, Renderable pattern) :
    (patterns.map Pattern.render).mapM Pattern.parse = .ok patterns := by
  induction patterns with
  | nil => rfl
  | cons pattern patterns ih =>
      rw [List.forall_mem_cons] at h
      rw [List.map_cons, List.mapM_cons, h.1.parse_render, ih h.2]
      rfl

/-- Rendering the patterns of a filter gives a filter with the same patterns. -/
theorem compile_render {filter : String} {patterns : List Pattern}
    (h : compile filter = .ok patterns) : compile (render patterns) = .ok patterns := by
  have hpatterns := renderable_of_compile h
  rw [compile, words_render hpatterns, mapM_parse_render hpatterns]

/-- A shielded blank, a backslash at the end of a file and a sign at the start of one. -/
theorem compile_render_two_patterns :
    ∃ patterns, compile "-a\\ b\\\\:\\:x \\+c" = .ok patterns ∧
      render patterns = "-a\\ b\\\\:\\:x +\\+c:**" ∧ compile (render patterns) = .ok patterns := by
  obtain ⟨patterns, hcompile, hrender⟩ : ∃ patterns,
      compile "-a\\ b\\\\:\\:x \\+c" = .ok patterns ∧
        render patterns = "-a\\ b\\\\:\\:x +\\+c:**" := ⟨_, rfl, by decide⟩
  exact ⟨patterns, hcompile, hrender, compile_render hcompile⟩

end Filter

end Suppression
