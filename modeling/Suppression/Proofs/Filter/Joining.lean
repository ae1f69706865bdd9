import Suppression.Proofs.Filter.Cutting

/-!
# Joining filters

Filters with a blank between them are one filter, with the patterns of all of them in
their order. A pattern further back overrides the ones in front of it, so what a joined
filter decides follows from what each part says about a finding.
-/

namespace Suppression.Filter

open Text

/-! ## The deciding pattern -/

/-- The last pattern that describes a finding. -/
def deciding (patterns : List Pattern) (uri rule : String) : Option Pattern :=
  (patterns.filter fun pattern => pattern.describes uri rule).getLast?

theorem deciding_append (front back : List Pattern) (uri rule : String) :
    deciding (front ++ back) uri rule =
      (deciding back uri rule).or (deciding front uri rule) := by
  simp [deciding, List.getLast?_append]

/-- The last pattern that describes a finding decides, and without one it is kept. -/
theorem keeps_eq_deciding (patterns : List Pattern) (uri rule : String) :
    keeps patterns uri rule = ((deciding patterns uri rule).map Pattern.keeps).getD true := by
  induction patterns using List.reverseRecOn with
  | nil => rfl
  | append_singleton patterns pattern ih =>
      rw [keeps_concat, deciding_append, ih]
      cases hdescribes : pattern.describes uri rule <;> simp [deciding, hdescribes]

theorem keeps_append (front back : List Pattern) (uri rule : String) :
    keeps (front ++ back) uri rule =
      ((deciding back uri rule).map Pattern.keeps).getD (keeps front uri rule) := by
  rw [keeps_eq_deciding, keeps_eq_deciding, deciding_append]
  cases deciding back uri rule <;> rfl

/-! ## Compiling -/

theorem compile_append_blank {first : String} (h : endsOpen first.toList = false) {blank : Char}
    (hblank : isBlank blank = true) (second : String) :
    compile (first ++ String.singleton blank ++ second) = (do
      let front ← compile first
      let back ← compile second
      return front ++ back) := by
  rw [compile, words_append_blank h hblank, List.mapM_append]
  rfl

/-- Filters can be joined at a blank, unless the first one ends in a backslash that shields
it. The joined filter has the patterns of both, and fails as the first filter in it that
fails. The last pattern that describes a finding decides, and those of the second filter come
behind those of the first one. -/
theorem compile_join {first : String} {blank : Char} (hblank : isBlank blank = true)
    (heven : Even (first.toList.rtakeWhile (· = '\\')).length) (second : String) :
    (∀ front back, compile first = .ok front → compile second = .ok back →
      compile (first ++ String.singleton blank ++ second) = .ok (front ++ back) ∧
        ∀ uri rule, keeps (front ++ back) uri rule =
          match deciding back uri rule, deciding front uri rule with
          | some pattern, _ => pattern.keeps
          | none, some pattern => pattern.keeps
          | none, none => true) ∧
    (∀ error, compile first = .error error →
      compile (first ++ String.singleton blank ++ second) = .error error) ∧
    ∀ front error, compile first = .ok front → compile second = .error error →
      compile (first ++ String.singleton blank ++ second) = .error error := by
  have hopen : endsOpen first.toList = false := by
    rw [← Bool.not_eq_true, endsOpen_iff_odd, Nat.not_odd_iff_even]
    exact heven
  rw [compile_append_blank hopen hblank]
  refine ⟨?_, ?_, ?_⟩
  · intro front back hfirst hsecond
    refine ⟨by rw [hfirst, hsecond]; rfl, ?_⟩
    intro uri rule
    rw [keeps_append, keeps_eq_deciding front]
    cases deciding back uri rule with
    | some pattern => rfl
    | none => cases deciding front uri rule <;> rfl
  · intro error hfirst
    rw [hfirst]
    rfl
  · intro front error hfirst hsecond
    rw [hfirst, hsecond]
    rfl

/-- An expression that ends in two backslashes does not shield the blank behind it. -/
theorem compile_join_two_backslashes :
    isBlank ' ' = true ∧ Even ("-a\\\\".toList.rtakeWhile (· = '\\')).length ∧
      ∃ front back, compile "-a\\\\" = .ok front ∧ compile "-b" = .ok back ∧
        compile "-a\\\\ -b" = .ok (front ++ back) ∧ keeps (front ++ back) "b" "r" = false := by
  have hblank : isBlank ' ' = true := by decide
  have heven : Even ("-a\\\\".toList.rtakeWhile (· = '\\')).length := by decide
  obtain ⟨front, hfront⟩ : ∃ front, compile "-a\\\\" = .ok front := ⟨_, rfl⟩
  obtain ⟨pattern, hback, hdescribes, hdrops⟩ : ∃ pattern, compile "-b" = .ok [pattern] ∧
      pattern.describes "b" "r" = true ∧ pattern.keeps = false := ⟨_, rfl, rfl, rfl⟩
  obtain ⟨hcompile, hkeeps⟩ := (compile_join hblank heven "-b").1 front [pattern] hfront hback
  refine ⟨hblank, heven, front, [pattern], hfront, hback, hcompile, ?_⟩
  rw [hkeeps]
  simp [deciding, hdescribes, hdrops]

end Suppression.Filter
