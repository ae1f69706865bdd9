import Suppression.Filter.Basic
import Suppression.Proofs.Fallible

/-!
# Parsing expressions

The pattern that an expression describes has the texts of its fields as the texts of its
globs, and a pattern is settled by these texts and its sign.
-/

namespace Suppression.Filter

/-- A pattern is settled by its sign and the texts of its globs. -/
theorem pattern_ext {left right : Pattern} (hkeeps : left.keeps = right.keeps)
    (hfile : left.file.source.toList = right.file.source.toList)
    (hrule : left.rule.source.toList = right.rule.source.toList) : left = right := by
  obtain ⟨keeps, file, rule⟩ := left
  obtain ⟨keeps', file', rule'⟩ := right
  cases hkeeps
  cases Glob.ext_source (String.toList_inj.mp hfile)
  cases Glob.ext_source (String.toList_inj.mp hrule)
  rfl

/-! ## From fields to patterns -/

theorem exists_globOf {field : List Char} (h : Glob.hasGluedStars field = false) :
    ∃ glob, Pattern.globOf field = .ok glob ∧ glob.source.toList = field := by
  have htext : Glob.hasGluedStars (String.ofList field).toList = false := by
    rwa [String.toList_ofList]
  have hparse : Pattern.globOf field = .ok ⟨String.ofList field, htext, _, rfl⟩ := by
    rw [Pattern.globOf, Glob.parse_of_wellFormed htext]
    rfl
  exact ⟨_, hparse, String.toList_ofList⟩

/-- An expression with two good fields is a pattern. -/
theorem exists_parse {expression : String} {text file rule : List Char} {keeps : Bool}
    (hsign : Pattern.takeSign expression.toList = (keeps, text))
    (hfields : Pattern.fields text = [file, rule]) (hne : rule ≠ [])
    (hfile : Glob.hasGluedStars file = false) (hrule : Glob.hasGluedStars rule = false) :
    ∃ pattern, Pattern.parse expression = .ok pattern ∧ pattern.keeps = keeps ∧
      pattern.file.source.toList = file ∧ pattern.rule.source.toList = rule := by
  obtain ⟨fileGlob, hfileGlob, hfileSource⟩ := exists_globOf hfile
  obtain ⟨ruleGlob, hruleGlob, hruleSource⟩ := exists_globOf hrule
  refine ⟨⟨keeps, fileGlob, ruleGlob⟩, ?_, rfl, hfileSource, hruleSource⟩
  simp only [Pattern.parse, hsign, hfields, hne, if_false, hfileGlob, hruleGlob]
  rfl

/-! ## From patterns to fields -/

theorem toList_source_of_globOf {field : List Char} {glob : Glob}
    (h : Pattern.globOf field = .ok glob) : glob.source.toList = field := by
  unfold Pattern.globOf at h
  cases hparse : Glob.parse (String.ofList field) with
  | error error =>
      rw [hparse] at h
      cases h
  | ok found =>
      rw [hparse] at h
      cases h
      rw [Glob.source_of_parse hparse, String.toList_ofList]

theorem sources_of_bind_globOf {file rule : List Char} {keeps : Bool} {pattern : Pattern}
    (h : (do return ⟨keeps, ← Pattern.globOf file, ← Pattern.globOf rule⟩ :
      Except Pattern.Error Pattern) = .ok pattern) :
    pattern.file.source.toList = file ∧ pattern.rule.source.toList = rule := by
  obtain ⟨fileGlob, hfile, h⟩ := exists_of_bind_eq_ok h
  obtain ⟨ruleGlob, hrule, h⟩ := exists_of_bind_eq_ok h
  cases h
  exact ⟨toList_source_of_globOf hfile, toList_source_of_globOf hrule⟩

/-- The texts of a pattern are fields of its expression, unless it describes every rule. -/
theorem sources_of_parse {expression : String} {pattern : Pattern}
    (h : Pattern.parse expression = .ok pattern) :
    pattern.file.source.toList ∈ Pattern.fields (Pattern.takeSign expression.toList).2 ∧
      (pattern.rule.source.toList = Pattern.anyRule.toList ∨
        pattern.rule.source.toList ∈ Pattern.fields (Pattern.takeSign expression.toList).2 ∧
          pattern.rule.source.toList ≠ []) := by
  unfold Pattern.parse at h
  generalize Pattern.takeSign expression.toList = signed at h ⊢
  obtain ⟨keeps, text⟩ := signed
  simp only at h ⊢
  split at h
  next file hfields =>
    obtain ⟨hfile, hrule⟩ := sources_of_bind_globOf h
    rw [hfields, hfile]
    exact ⟨List.mem_cons_self, .inl hrule⟩
  next file rule hfields =>
    obtain ⟨hfile, hrule⟩ := sources_of_bind_globOf h
    rw [hfields, hfile]
    refine ⟨List.mem_cons_self, ?_⟩
    split at hrule
    next => exact .inl hrule
    next hne =>
      rw [hrule]
      exact .inr ⟨by simp, hne⟩
  next => cases h

end Suppression.Filter
