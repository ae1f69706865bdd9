import Mathlib.Logic.Relation
import Suppression.Proofs.Filter.Cutting
import Suppression.Proofs.Filter.Parsing
import Suppression.Proofs.Glob.Literal

/-!
# Separators of candidates

Between the parts of a candidate it does not matter which separators stand there and how
many. At the end of a candidate it does: a single slash is ignored, whereas a backslash or a
longer run leaves an empty part behind. So writing other separators changes what globs find
exactly if it makes or unmakes a final run that is a single slash.
-/

namespace Suppression.Glob

open Text

/-- One separator is written in place of another, or of two side by side. -/
inductive RespaceStep : List Char → List Char → Prop where
  | exchange (before after : List Char) {old new : Char} (hold : isSeparator old = true)
      (hnew : isSeparator new = true) :
      RespaceStep (before ++ old :: after) (before ++ new :: after)
  | merge (before after : List Char) {first second : Char} (hfirst : isSeparator first = true)
      (hsecond : isSeparator second = true) :
      RespaceStep (before ++ first :: second :: after) (before ++ first :: after)

/-- The second candidate is the first one with other or fewer separators in a row. -/
def Respaced : List Char → List Char → Prop := Relation.ReflTransGen RespaceStep

/-- The candidate ends in a slash that has no separator in front of it. -/
def EndsInLoneSlash (candidate : List Char) : Prop :=
  candidate.getLast? = some '/' ∧ candidate.dropLast.getLast?.any isSeparator = false

instance (candidate : List Char) : Decidable (EndsInLoneSlash candidate) :=
  inferInstanceAs (Decidable (_ ∧ _))

/-! ## Parts between runs -/

/-- The texts between all runs of separators, a final one included. -/
def runParts (candidate : List Char) : List (List Char) :=
  pieces isSeparator (squeeze isSeparator candidate)

theorem parts_eq_runParts (candidate : List Char) :
    parts candidate = runParts (dropFinal '/' candidate) := rfl

/-- The first of some neighbouring separators opens no part of its own. -/
theorem runParts_cons (c : Char) (candidate : List Char) :
    runParts (c :: candidate) =
      if isSeparator c then
        if candidate.head?.any isSeparator then runParts candidate else [] :: runParts candidate
      else consFirst c (runParts candidate) := by
  unfold runParts
  rw [squeeze_cons, head?_squeeze_any]
  cases hc : isSeparator c <;> cases hnext : candidate.head?.any isSeparator <;>
    simp [pieces_cons, hc]

theorem runParts_cons_congr {text other : List Char} (c : Char)
    (hparts : runParts text = runParts other)
    (hhead : text.head?.any isSeparator = other.head?.any isSeparator) :
    runParts (c :: text) = runParts (c :: other) := by
  rw [runParts_cons, runParts_cons, hparts, hhead]

theorem head?_append_cons_any {c d : Char} (h : isSeparator c = isSeparator d)
    (before text other : List Char) :
    (before ++ c :: text).head?.any isSeparator =
      (before ++ d :: other).head?.any isSeparator := by
  cases before with
  | nil => exact h
  | cons e before => rfl

/-- A step changes no part. -/
theorem RespaceStep.runParts_eq {candidate other : List Char} (h : RespaceStep candidate other) :
    runParts candidate = runParts other := by
  cases h with
  | exchange before after hold hnew =>
      induction before with
      | nil => simp only [List.nil_append, runParts_cons, hold, hnew, if_true]
      | cons c before ih =>
          exact runParts_cons_congr c ih (head?_append_cons_any (hold.trans hnew.symm) _ _ _)
  | @merge before after first second hfirst hsecond =>
      induction before with
      | nil => simp [runParts_cons, hfirst, hsecond]
      | cons c before ih => exact runParts_cons_congr c ih (head?_append_cons_any rfl _ _ _)

theorem Respaced.runParts_eq {candidate other : List Char} (h : Respaced candidate other) :
    runParts candidate = runParts other := by
  induction h with
  | refl => rfl
  | tail _ hstep ih => exact ih.trans hstep.runParts_eq

/-! ## The end of a candidate -/

/-- A separator behind a text that ends in none leaves an empty part. -/
theorem runParts_concat {text : List Char} {separator : Char}
    (hseparator : isSeparator separator = true) (hlast : text.getLast?.any isSeparator = false) :
    runParts (text ++ [separator]) = runParts text ++ [[]] := by
  induction text with
  | nil => simp [runParts, squeeze, pieces, hseparator]
  | cons c text ih =>
      cases text with
      | nil =>
          have hc : isSeparator c = false := hlast
          simp [runParts, squeeze, pieces, hseparator, hc, consFirst]
      | cons d text =>
          have hne := pieces_ne_nil isSeparator (squeeze isSeparator (d :: text))
          rw [List.cons_append, runParts_cons, ih hlast, runParts_cons c (d :: text)]
          split
          · rw [List.cons_append, List.head?_cons, List.head?_cons]
            split <;> rfl
          · exact Filter.consFirst_append hne c [[]]

theorem parts_of_endsInLoneSlash {candidate : List Char} (h : EndsInLoneSlash candidate) :
    parts candidate ++ [[]] = runParts candidate := by
  obtain ⟨hslash, hlast⟩ := h
  obtain ⟨text, rfl⟩ := List.getLast?_eq_some_iff.mp hslash
  rw [List.dropLast_concat] at hlast
  rw [parts_eq_runParts, dropFinal_concat, runParts_concat rfl hlast]

theorem parts_of_not_endsInLoneSlash {candidate : List Char} (h : ¬ EndsInLoneSlash candidate) :
    parts candidate = runParts candidate := by
  rw [parts_eq_runParts]
  by_cases hslash : candidate.getLast? = some '/'
  · obtain ⟨text, rfl⟩ := List.getLast?_eq_some_iff.mp hslash
    rw [EndsInLoneSlash, List.dropLast_concat, and_iff_right hslash, Bool.not_eq_false] at h
    -- The slash belongs to a longer run, of which a separator is left when it is dropped.
    obtain ⟨separator, hlast, hseparator⟩ := (Option.any_eq_true _ _).mp h
    obtain ⟨front, rfl⟩ := List.getLast?_eq_some_iff.mp hlast
    have hmerge : RespaceStep (front ++ separator :: '/' :: []) (front ++ separator :: []) :=
      .merge front [] hseparator rfl
    rw [dropFinal_concat, ← hmerge.runParts_eq, List.append_assoc]
    rfl
  · rw [dropFinal_of_getLast?_ne hslash]

/-! ## Globs tell parts apart -/

theorem not_mem_intercalate {c separator : Char} (hc : c ≠ separator)
    {texts : List (List Char)} (h : ∀ text ∈ texts, c ∉ text) :
    c ∉ [separator].intercalate texts := by
  induction texts with
  | nil => simp
  | cons first texts ih =>
      rw [List.forall_mem_cons] at h
      cases texts with
      | nil => simpa using h.1
      | cons second texts =>
          rw [List.intercalate_cons_cons]
          simp [h.1, hc, ih h.2]

/-- Some glob describes just the candidates that have the same parts. -/
theorem exists_glob_of_parts (candidate : String) :
    ∃ glob : Glob, ∀ other : String,
      glob.accepts other = true ↔ parts other.toList = parts candidate.toList := by
  have hfree : ∀ part ∈ parts candidate.toList, ∀ c ∈ part, isSeparator c = false :=
    fun part hpart c hc => separates_eq_false_of_mem_pieces hpart hc
  have hslash : ∀ part ∈ parts candidate.toList, '/' ∉ part :=
    fun part hpart hmem => absurd (hfree part hpart '/' hmem) (by decide)
  have hbackslash : '\\' ∉ ['/'].intercalate (parts candidate.toList) ++ ['/'] := by
    rw [List.mem_append, not_or]
    exact ⟨not_mem_intercalate (by decide) fun part => backslash_not_mem_of_mem_parts, by decide⟩
  -- The final slash keeps the last part, which may be empty.
  have hcomponents : componentTexts (['/'].intercalate (parts candidate.toList) ++ ['/']) =
      parts candidate.toList := by
    rw [componentTexts, dropFinal_concat,
      List.splitOn_intercalate '/' hslash (pieces_ne_nil _ _)]
  obtain ⟨glob, -, hsource⟩ := Filter.exists_globOf (hasGluedStars_shield
    (['/'].intercalate (parts candidate.toList) ++ ['/']))
  refine ⟨glob, ?_⟩
  intro other
  rw [accepts_iff_of_source_eq_shield hsource hbackslash, hcomponents, partsOf_iff]

theorem accepts_eq_iff_parts_eq {candidate other : String} :
    (∀ glob : Glob, glob.accepts candidate = glob.accepts other) ↔
      parts candidate.toList = parts other.toList := by
  constructor
  · intro h
    obtain ⟨glob, hglob⟩ := exists_glob_of_parts other
    rw [← hglob, h glob, hglob]
  · intro h glob
    rw [accepts, h]
    rfl

/-- What globs find in a candidate does not depend on how its separators are written, except
that a final run may or may not be a single slash. -/
theorem accepts_eq_iff_of_respaced {candidate other : String}
    (h : Respaced candidate.toList other.toList) :
    (∀ glob : Glob, glob.accepts candidate = glob.accepts other) ↔
      (EndsInLoneSlash candidate.toList ↔ EndsInLoneSlash other.toList) := by
  have hparts := h.runParts_eq
  rw [accepts_eq_iff_parts_eq]
  by_cases hcandidate : EndsInLoneSlash candidate.toList <;>
    by_cases hother : EndsInLoneSlash other.toList
  · rw [← parts_of_endsInLoneSlash hcandidate, ← parts_of_endsInLoneSlash hother] at hparts
    simpa [hcandidate, hother] using hparts
  · rw [← parts_of_endsInLoneSlash hcandidate, ← parts_of_not_endsInLoneSlash hother] at hparts
    simp [hcandidate, hother, ← hparts]
  · rw [← parts_of_not_endsInLoneSlash hcandidate, ← parts_of_endsInLoneSlash hother] at hparts
    simp [hcandidate, hother, hparts]
  · rw [← parts_of_not_endsInLoneSlash hcandidate, ← parts_of_not_endsInLoneSlash hother] at hparts
    simpa [hcandidate, hother] using hparts

/-- Two slashes become one and a backslash becomes a slash, in front of a final slash. -/
theorem accepts_eq_of_respaced_folders :
    Respaced "a//b\\c/".toList "a/b/c/".toList ∧ EndsInLoneSlash "a//b\\c/".toList ∧
      EndsInLoneSlash "a/b/c/".toList ∧
      ∀ glob : Glob, glob.accepts "a//b\\c/" = glob.accepts "a/b/c/" := by
  have hmerge : RespaceStep "a//b\\c/".toList "a/b\\c/".toList := .merge ['a'] _ rfl rfl
  have hexchange : RespaceStep "a/b\\c/".toList "a/b/c/".toList :=
    .exchange ['a', '/', 'b'] _ rfl rfl
  have hrespaced : Respaced "a//b\\c/".toList "a/b/c/".toList :=
    (Relation.ReflTransGen.single hmerge).tail hexchange
  have hcandidate : EndsInLoneSlash "a//b\\c/".toList := by decide
  have hother : EndsInLoneSlash "a/b/c/".toList := by decide
  exact ⟨hrespaced, hcandidate, hother,
    (accepts_eq_iff_of_respaced hrespaced).mpr (iff_of_true hcandidate hother)⟩

/-- A final slash is ignored, but not the backslash that is written in its place. -/
theorem accepts_final_slash_not_backslash :
    Respaced "a/".toList "a\\".toList ∧
      ∃ glob, parse "a" = .ok glob ∧ glob.accepts "a/" = true ∧ glob.accepts "a\\" = false := by
  have hexchange : RespaceStep "a/".toList "a\\".toList := .exchange ['a'] [] rfl rfl
  exact ⟨.single hexchange, _, parse_of_wellFormed rfl, by decide, by decide⟩

end Suppression.Glob
