import Suppression.Proofs.Filter.Cutting
import Suppression.Proofs.Filter.Parsing
import Suppression.Proofs.Glob.Literal

/-!
# Escaping

A text with a backslash in front of every character that means something in a filter
passes through all stages of compiling: it is not cut at its blanks, it has no separating
colon, and its globs are literal. So a filter can name any file and any rule exactly.
-/

namespace Suppression

open Text

namespace Filter

/-- Some stage of compiling a filter gives this character a meaning. -/
def isSpecial (c : Char) : Bool :=
  c = '*' || c = '?' || c = ':' || c = '+' || c = '-' || isBlank c

/-- No stage in front of the globs gives this character a meaning. -/
def isPlain (c : Char) : Bool :=
  c ≠ '\\' && c ≠ ':' && !isBlank c

/-- The text with a backslash in front of every special character. -/
def escape (text : String) : String :=
  String.ofList (shield isSpecial text.toList)

theorem isPlain_iff {c : Char} :
    isPlain c = true ↔ c ≠ '\\' ∧ c ≠ ':' ∧ isBlank c = false := by
  simp [isPlain, and_assoc]

@[simp] theorem toList_escape (text : String) :
    (escape text).toList = shield isSpecial text.toList := by
  simp [escape]

/-! ## Cutting into expressions -/

theorem cutAtBlanks_append {text : List Char} (h : text.all isPlain = true)
    (behind : List Char) :
    cutAtBlanks (text ++ behind) = text.foldr consFirst (cutAtBlanks behind) := by
  induction text with
  | nil => rfl
  | cons c text ih =>
      rw [List.all_cons, Bool.and_eq_true, isPlain_iff] at h
      obtain ⟨⟨hbackslash, -, hblank⟩, htext⟩ := h
      rw [List.cons_append, cutAtBlanks_cons hbackslash hblank, ih htext]
      rfl

theorem cutAtBlanks_shield_append {text : List Char} (h : '\\' ∉ text) (behind : List Char) :
    cutAtBlanks (shield isSpecial text ++ behind) =
      (shield isSpecial text).foldr consFirst (cutAtBlanks behind) := by
  induction text with
  | nil => rfl
  | cons c text ih =>
      rw [List.mem_cons, not_or] at h
      have htext := ih h.2
      rw [shield_cons]
      split
      next => rw [List.cons_append, List.cons_append, cutAtBlanks, htext]; rfl
      next hspecial =>
        have hblank : isBlank c = false := by
          rw [isSpecial, Bool.not_eq_true, Bool.or_eq_false_iff] at hspecial
          exact hspecial.2
        have hbackslash : c ≠ '\\' := fun heq => h.1 heq.symm
        rw [List.cons_append, cutAtBlanks_cons hbackslash hblank, htext]
        rfl

/-! ## Separating the globs -/

theorem fields_append {text : List Char} (h : text.all isPlain = true) (behind : List Char) :
    Pattern.fields (text ++ behind) = text.foldr consFirst (Pattern.fields behind) := by
  induction text with
  | nil => rfl
  | cons c text ih =>
      rw [List.all_cons, Bool.and_eq_true, isPlain_iff] at h
      obtain ⟨⟨hbackslash, hcolon, -⟩, htext⟩ := h
      rw [List.cons_append, fields_cons hbackslash hcolon, ih htext]
      rfl

theorem isEscapable_eq_false {c : Char} (h : Glob.isSpecial c = true) :
    Pattern.isEscapable c = false := by
  by_contra hescapable
  simp only [Pattern.isEscapable, Bool.not_eq_false, Bool.or_eq_true, decide_eq_true_eq]
    at hescapable
  rcases hescapable with ((rfl | rfl) | rfl) | rfl <;> exact absurd h (by decide)

theorem isEscapable_of_isSpecial {c : Char} (h : isSpecial c = true)
    (hglob : Glob.isSpecial c = false) : Pattern.isEscapable c = true := by
  simp only [Glob.isSpecial, Bool.or_eq_false_iff, decide_eq_false_iff_not] at hglob
  obtain ⟨⟨hstar, hany⟩, hblank⟩ := hglob
  simp only [isSpecial, hstar, hany, hblank, decide_false, Bool.false_or, Bool.or_false,
    Bool.or_eq_true, decide_eq_true_eq] at h
  rcases h with (rfl | rfl) | rfl <;> decide

theorem isSpecial_of_glob {c : Char} (h : Glob.isSpecial c = true) : isSpecial c = true := by
  simp only [Glob.isSpecial, Bool.or_eq_true] at h
  simp only [isSpecial, Bool.or_eq_true]
  tauto

/-- The fields of an escaped text are literal globs: the backslashes that a glob needs stay,
and the others are taken away. -/
theorem fields_shield_append {text : List Char} (h : '\\' ∉ text) (behind : List Char) :
    Pattern.fields (shield isSpecial text ++ behind) =
      (shield Glob.isSpecial text).foldr consFirst (Pattern.fields behind) := by
  induction text with
  | nil => rfl
  | cons c text ih =>
      rw [List.mem_cons, not_or] at h
      have htext := ih h.2
      rw [shield_cons, shield_cons]
      -- A character may mean something to a glob, only to the stages in front of it, or nothing.
      cases hglob : Glob.isSpecial c with
      | true =>
          rw [isSpecial_of_glob hglob]
          simp only [if_true, List.cons_append, List.foldr_cons]
          rw [Pattern.fields, htext, isEscapable_eq_false hglob]
          rfl
      | false =>
          cases hspecial : isSpecial c with
          | true =>
              simp only [if_true, Bool.false_eq_true, if_false, List.cons_append, List.foldr_cons]
              rw [Pattern.fields, htext, isEscapable_of_isSpecial hspecial hglob]
              rfl
          | false =>
              have hcolon : c ≠ ':' := by
                intro hc
                subst hc
                exact absurd hspecial (by decide)
              simp only [Bool.false_eq_true, if_false, List.cons_append, List.foldr_cons]
              rw [fields_cons (Ne.symm h.1) hcolon, htext]

/-! ## Compiling -/

theorem words_eq_singleton {filter : String} (h : cutAtBlanks filter.toList = [filter.toList])
    (hne : filter.toList ≠ []) : words filter = [filter] := by
  simp [words, h, hne]

/-- An exclusion of an escaped file, with more of a glob behind it, and an escaped rule is
one pattern. -/
theorem compile_exclusion {file rule : String} (more : List Char)
    (hfile : '\\' ∉ file.toList) (hrule : '\\' ∉ rule.toList) (hne : rule ≠ "")
    (hplain : more.all isPlain = true) (hhead : more.head? ≠ some '*')
    (hglued : Glob.hasGluedStars more = false) :
    ∃ pattern,
      compile ("-" ++ escape file ++ (String.ofList more ++ ":") ++ escape rule) = .ok [pattern] ∧
        pattern.keeps = false ∧
        pattern.file.source.toList = shield Glob.isSpecial file.toList ++ more ∧
        pattern.rule.source.toList = shield Glob.isSpecial rule.toList := by
  have hexpression : ("-" ++ escape file ++ (String.ofList more ++ ":") ++ escape rule).toList =
      '-' :: (shield isSpecial file.toList ++ (more ++ ':' :: shield isSpecial rule.toList)) := by
    simp
  -- From here on only the characters of the expression matter.
  generalize "-" ++ escape file ++ (String.ofList more ++ ":") ++ escape rule = expression
    at hexpression ⊢
  have hcut : cutAtBlanks expression.toList = [expression.toList] := by
    have hlast := cutAtBlanks_shield_append hrule []
    rw [List.append_nil] at hlast
    rw [hexpression, cutAtBlanks_cons (by decide) (by decide), cutAtBlanks_shield_append hfile,
      cutAtBlanks_append hplain, cutAtBlanks_cons (by decide) (by decide), hlast]
    simp [cutAtBlanks, foldr_consFirst, consFirst]
  have hwords : words expression = [expression] :=
    words_eq_singleton hcut (by simp [hexpression])
  have hsign : Pattern.takeSign expression.toList =
      (false, shield isSpecial file.toList ++ (more ++ ':' :: shield isSpecial rule.toList)) := by
    rw [hexpression]
    rfl
  have hfields : Pattern.fields
      (shield isSpecial file.toList ++ (more ++ ':' :: shield isSpecial rule.toList)) =
        [shield Glob.isSpecial file.toList ++ more, shield Glob.isSpecial rule.toList] := by
    have hlast := fields_shield_append hrule []
    rw [List.append_nil] at hlast
    rw [fields_shield_append hfile, fields_append hplain, Pattern.fields, if_pos rfl, hlast]
    · simp [Pattern.fields, foldr_consFirst]
    · simp
  have hfileGlued : Glob.hasGluedStars (shield Glob.isSpecial file.toList ++ more) = false := by
    rw [Glob.hasGluedStars_shield_append hhead, hglued]
  have hruleNe : shield Glob.isSpecial rule.toList ≠ [] := by simpa using hne
  obtain ⟨pattern, hparse, hkeeps, hfileSource, hruleSource⟩ :=
    exists_parse hsign hfields hruleNe hfileGlued
      (Glob.hasGluedStars_shield _)
  refine ⟨pattern, ?_, hkeeps, hfileSource, hruleSource⟩
  rw [compile, hwords, List.mapM_cons, hparse]
  rfl

/-- Escaped texts name files and rules exactly: the filter that excludes an escaped file, or
an escaped folder with `/**` behind it, has one pattern, and it describes the findings whose
parts are those of the texts, or begin with those of the folder. -/
theorem compile_escape (file rule : String) (hfile : '\\' ∉ file.toList)
    (hrule : '\\' ∉ rule.toList) (hne : rule ≠ "") :
    (∃ pattern, compile ("-" ++ escape file ++ ":" ++ escape rule) = .ok [pattern] ∧
      pattern.keeps = false ∧
      ∀ uri ruleId, pattern.describes uri ruleId = true ↔
        Glob.PartsOf uri.toList (Glob.componentTexts file.toList) ∧
          Glob.PartsOf ruleId.toList (Glob.componentTexts rule.toList)) ∧
    (file.toList.getLast? ≠ some '/' →
      ∃ pattern, compile ("-" ++ escape file ++ "/**:" ++ escape rule) = .ok [pattern] ∧
        pattern.keeps = false ∧
        ∀ uri ruleId, pattern.describes uri ruleId = true ↔
          (∃ parts, Glob.PartsOf uri.toList parts ∧
            Glob.componentTexts file.toList <+: parts) ∧
          Glob.PartsOf ruleId.toList (Glob.componentTexts rule.toList)) := by
  constructor
  · obtain ⟨pattern, hcompile, hkeeps, hfileSource, hruleSource⟩ :=
      compile_exclusion [] hfile hrule hne rfl (by decide) rfl
    have hmore : String.ofList [] ++ ":" = ":" := by decide
    rw [hmore] at hcompile
    rw [List.append_nil] at hfileSource
    refine ⟨pattern, hcompile, hkeeps, ?_⟩
    intro uri ruleId
    rw [Pattern.describes, Bool.and_eq_true,
      Glob.accepts_iff_of_source_eq_shield hfileSource hfile,
      Glob.accepts_iff_of_source_eq_shield hruleSource hrule, and_comm]
  · intro hlast
    obtain ⟨pattern, hcompile, hkeeps, hfileSource, hruleSource⟩ :=
      compile_exclusion ['/', '*', '*'] hfile hrule hne (by decide) (by decide) rfl
    have hmore : String.ofList ['/', '*', '*'] ++ ":" = "/**:" := by decide
    rw [hmore] at hcompile
    refine ⟨pattern, hcompile, hkeeps, ?_⟩
    intro uri ruleId
    rw [Pattern.describes, Bool.and_eq_true,
      Glob.accepts_iff_of_source_eq_shield_stars hfileSource hfile hlast,
      Glob.accepts_iff_of_source_eq_shield hruleSource hrule, and_comm]

/-- A folder whose name looks like an expression, and a rule that looks like two fields. -/
theorem compile_escape_folder :
    ∃ pattern, compile ("-" ++ escape "+a b/**" ++ "/**:" ++ escape "x:y") = .ok [pattern] ∧
      pattern.describes "+a b\\**/c.rs" "x:y" = true := by
  obtain ⟨pattern, hcompile, -, hdescribes⟩ :=
    (compile_escape "+a b/**" "x:y" (by decide) (by decide) (by decide)).2 (by decide)
  refine ⟨pattern, hcompile, (hdescribes _ _).mpr ?_⟩
  constructor
  · exact ⟨_, Glob.partsOf_iff.mpr rfl, by decide⟩
  · exact Glob.partsOf_iff.mpr (by decide)

end Filter

end Suppression
