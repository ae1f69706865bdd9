import Suppression.Proofs.Filter.Cutting
import Suppression.Proofs.Filter.Parsing

/-!
# The grammar of expressions

What an expression describes, said about its text alone. A colon separates if the backslashes
directly in front of it take each other along, which is a matter of their number. One such
colon at most is allowed, and the texts around it are the globs once their own backslashes
are resolved. So an expression needs no scanner that remembers what it has passed.
-/

namespace Suppression

open Text

namespace Pattern

/-- The text without one leading sign. -/
def unsigned (text : List Char) : List Char :=
  if text.head? = some '-' ∨ text.head? = some '+' then text.tail else text

/-- The colon between the two parts of the text has an even number of backslashes directly in
front of it. -/
def Separates (text before after : List Char) : Prop :=
  text = before ++ ':' :: after ∧ Even (before.rtakeWhile (· = '\\')).length

/-- From left to right, each backslash in front of an escapable character gives way to it. -/
def resolve : List Char → List Char
  | '\\' :: c :: text =>
      if isEscapable c then c :: resolve text else '\\' :: resolve (c :: text)
  | c :: text => c :: resolve text
  | [] => []

/-- The texts of the globs in a text with at most one separating colon. -/
inductive Reads (text : List Char) : List Char → Option (List Char) → Prop where
  | file (hnone : ∀ before after, ¬ Separates text before after) :
      Reads text (resolve text) none
  | fileAndRule {before after : List Char} (h : Separates text before after)
      (honly : ∀ other rest, Separates text other rest → other = before) :
      Reads text (resolve before) (some (resolve after))

/-- The text of the glob for rules, which describes every rule if it is missing or empty. -/
def ruleText : Option (List Char) → List Char
  | some (c :: text) => c :: text
  | _ => anyRule.toList

/-- What an expression comes to. Its separating colons are counted before its globs are looked
at, and the glob for files is looked at before the one for rules. -/
inductive Parsed (expression : String) : Except Error Pattern → Prop where
  | manySeparators {first second afterFirst afterSecond : List Char}
      (hfirst : Separates (unsigned expression.toList) first afterFirst)
      (hsecond : Separates (unsigned expression.toList) second afterSecond)
      (hlt : first.length < second.length) :
      Parsed expression (.error (.manySeparators (String.ofList (unsigned expression.toList))))
  | fileRefused {file : List Char} {rule : Option (List Char)}
      (h : Reads (unsigned expression.toList) file rule)
      (hfile : ∀ glob, Glob.parse (String.ofList file) ≠ .ok glob) :
      Parsed expression (.error (.glob ⟨String.ofList file⟩))
  | ruleRefused {file rule : List Char} {glob : Glob}
      (h : Reads (unsigned expression.toList) file (some rule))
      (hfile : Glob.parse (String.ofList file) = .ok glob) (hne : rule ≠ [])
      (hrule : ∀ glob, Glob.parse (String.ofList rule) ≠ .ok glob) :
      Parsed expression (.error (.glob ⟨String.ofList rule⟩))
  | pattern {file : List Char} {rule : Option (List Char)} {pattern : Pattern}
      (h : Reads (unsigned expression.toList) file rule)
      (hkeeps : pattern.keeps = false ↔ expression.toList.head? = some '-')
      (hfile : pattern.file.source = String.ofList file)
      (hrule : pattern.rule.source = String.ofList (ruleText rule)) :
      Parsed expression (.ok pattern)

end Pattern

namespace Filter

open Pattern (Separates Reads Parsed resolve unsigned ruleText)

theorem takeSign_eq (text : List Char) :
    Pattern.takeSign text = (decide (text.head? ≠ some '-'), unsigned text) := by
  unfold Pattern.takeSign unsigned
  split
  next => simp
  next => simp
  next hminus hplus =>
    cases text with
    | nil => rfl
    | cons c text =>
        have hc : c ≠ '-' ∧ c ≠ '+' := by
          constructor
          · rintro rfl
            exact hminus text rfl
          · rintro rfl
            exact hplus text rfl
        simp [hc.1, hc.2]

/-! ## Separating colons -/

theorem separates_iff {text before after : List Char} :
    Separates text before after ↔ text = before ++ ':' :: after ∧ endsOpen before = false := by
  rw [Separates, ← Nat.not_odd_iff_even, ← endsOpen_iff_odd, Bool.not_eq_true]

theorem fields_cons_colon (text : List Char) :
    Pattern.fields (':' :: text) = [] :: Pattern.fields text := by
  rw [Pattern.fields]
  · rw [if_pos rfl]
  · simp

/-- A separating colon behind a text begins a field. -/
theorem fields_append_colon {text : List Char} (h : endsOpen text = false)
    (behind : List Char) :
    Pattern.fields (text ++ ':' :: behind) = Pattern.fields text ++ Pattern.fields behind := by
  fun_induction Pattern.fields text with
  | case1 => exact fields_cons_colon behind
  | case2 c text hc ih =>
      have htext := ih (by simpa [endsOpen] using h)
      rw [List.cons_append, List.cons_append, Pattern.fields, if_pos hc, htext,
        consFirst_append (fields_ne_nil text)]
  | case3 c text hc ih =>
      have htext := ih (by simpa [endsOpen] using h)
      rw [List.cons_append, List.cons_append, Pattern.fields, if_neg hc, htext,
        consFirst_append (fields_ne_nil text), consFirst_append (consFirst_ne_nil _ _)]
  | case4 text hpair ih =>
      rw [endsOpen_cons (by decide)] at h
      rw [List.cons_append, fields_cons_colon, ih h, List.cons_append]
  | case5 c text hpair hc ih =>
      have hbackslash : c ≠ '\\' := by
        rintro rfl
        cases text with
        | nil => exact absurd h (by decide)
        | cons d text => exact hpair d text rfl rfl
      rw [endsOpen_cons hbackslash] at h
      rw [List.cons_append, fields_cons hbackslash hc, ih h,
        consFirst_append (fields_ne_nil text)]

theorem resolve_cons {c : Char} (h : c ≠ '\\') (text : List Char) :
    resolve (c :: text) = c :: resolve text := by
  rw [resolve]
  intro d rest hc _
  exact h hc

/-- A text without separating colons is one field. -/
theorem fields_eq_resolve {text : List Char}
    (h : ∀ before after, text = before ++ ':' :: after → endsOpen before = true) :
    Pattern.fields text = [resolve text] := by
  fun_induction Pattern.fields text with
  | case1 => rfl
  | case2 c text hc ih =>
      have htext := ih fun before after hcut => h ('\\' :: c :: before) after (by rw [hcut]; rfl)
      rw [htext, resolve, if_pos hc]
      rfl
  | case3 c text hc ih =>
      have htext := ih fun before after hcut => h ('\\' :: c :: before) after (by rw [hcut]; rfl)
      obtain ⟨hbackslash, -⟩ := ne_of_isEscapable_eq_false (Bool.eq_false_iff.mpr hc)
      rw [htext, resolve, if_neg hc, resolve_cons hbackslash]
      rfl
  | case4 text hpair ih => exact absurd (h [] text rfl) (by decide)
  | case5 c text hpair hc ih =>
      by_cases hbackslash : c = '\\'
      · subst hbackslash
        cases text with
        | nil => rfl
        | cons d text => exact absurd rfl (hpair d text rfl)
      · have htext := ih fun before after hcut => by
          rw [← endsOpen_cons hbackslash]
          exact h (c :: before) after (by rw [hcut]; rfl)
        rw [htext, resolve_cons hbackslash]
        rfl

/-- The only separating colon of a text divides it into two fields. -/
theorem fields_eq_pair {text before after : List Char} (h : Separates text before after)
    (honly : ∀ other rest, Separates text other rest → other = before) :
    Pattern.fields text = [resolve before, resolve after] := by
  simp only [separates_iff] at h honly
  obtain ⟨rfl, hopen⟩ := h
  have hbefore : Pattern.fields before = [resolve before] := by
    apply fields_eq_resolve
    intro front back hcut
    by_contra hfront
    rw [Bool.not_eq_true] at hfront
    have hsame := honly front (back ++ ':' :: after) ⟨by rw [hcut]; simp, hfront⟩
    rw [hsame] at hcut
    simp at hcut
  have hafter : Pattern.fields after = [resolve after] := by
    apply fields_eq_resolve
    intro front back hcut
    by_contra hfront
    rw [Bool.not_eq_true, ← endsOpen_append_cons (c := ':') (by decide) before] at hfront
    have hsame := honly (before ++ ':' :: front) back ⟨by rw [hcut]; simp, hfront⟩
    simp at hsame
  rw [fields_append_colon hopen, hbefore, hafter]
  rfl

/-- Two separating colons leave three fields at least. -/
theorem two_lt_length_fields {text first second afterFirst afterSecond : List Char}
    (hfirst : Separates text first afterFirst) (hsecond : Separates text second afterSecond)
    (hlt : first.length < second.length) : 2 < (Pattern.fields text).length := by
  rw [separates_iff] at hfirst hsecond
  obtain ⟨rfl, hopenFirst⟩ := hfirst
  obtain ⟨hcut, hopenSecond⟩ := hsecond
  -- The second colon stands in the text behind the first one.
  obtain ⟨middle, rfl, rfl⟩ : ∃ middle, second = first ++ ':' :: middle ∧
      afterFirst = middle ++ ':' :: afterSecond := by
    rcases List.append_eq_append_iff.mp hcut with ⟨between, hbetween, hbehind⟩ | ⟨between, rfl, -⟩
    · cases between with
      | nil =>
          rw [hbetween, List.append_nil] at hlt
          exact absurd hlt (Nat.lt_irrefl _)
      | cons c middle =>
          cases hbehind
          exact ⟨middle, hbetween, rfl⟩
    · rw [List.length_append] at hlt
      omega
  rw [endsOpen_append_cons (by decide)] at hopenSecond
  have hfile := List.length_pos_of_ne_nil (fields_ne_nil first)
  have hrule := List.length_pos_of_ne_nil (fields_ne_nil middle)
  have hthird := List.length_pos_of_ne_nil (fields_ne_nil afterSecond)
  rw [fields_append_colon hopenFirst, fields_append_colon hopenSecond, List.length_append,
    List.length_append]
  omega

/-! ## Parsing -/

theorem exists_reads_or_manySeparators (text : List Char) :
    (∃ file rule, Reads text file rule) ∨
      ∃ first second afterFirst afterSecond, Separates text first afterFirst ∧
        Separates text second afterSecond ∧ first.length < second.length := by
  by_cases hsome : ∃ before after, Separates text before after
  · obtain ⟨before, after, h⟩ := hsome
    by_cases honly : ∀ other rest, Separates text other rest → other = before
    · exact .inl ⟨_, _, .fileAndRule h honly⟩
    · push Not at honly
      obtain ⟨other, rest, hother, hne⟩ := honly
      have hlength : other.length ≠ before.length := fun hlength =>
        hne (List.append_inj (hother.1.symm.trans h.1) hlength).1
      rcases Nat.lt_or_gt_of_ne hlength with hlt | hlt
      · exact .inr ⟨other, before, rest, after, hother, h, hlt⟩
      · exact .inr ⟨before, other, after, rest, h, hother, hlt⟩
  · exact .inl ⟨_, _, .file fun before after h => hsome ⟨before, after, h⟩⟩

theorem parse_of_reads {expression : String} {file : List Char} {rule : Option (List Char)}
    (h : Reads (unsigned expression.toList) file rule) :
    Pattern.parse expression = (do
      return ⟨decide (expression.toList.head? ≠ some '-'), ← Pattern.globOf file,
        ← Pattern.globOf (ruleText rule)⟩) := by
  unfold Pattern.parse
  rw [takeSign_eq]
  cases h with
  | file hnone =>
      have hfields : Pattern.fields (unsigned expression.toList) =
          [resolve (unsigned expression.toList)] := by
        apply fields_eq_resolve
        intro before after hcut
        by_contra hopen
        rw [Bool.not_eq_true] at hopen
        exact hnone before after (separates_iff.mpr ⟨hcut, hopen⟩)
      simp only [hfields]
      rfl
  | @fileAndRule before after h honly =>
      simp only [fields_eq_pair h honly]
      cases resolve after <;> rfl

theorem parse_of_manySeparators {expression : String}
    {first second afterFirst afterSecond : List Char}
    (hfirst : Separates (unsigned expression.toList) first afterFirst)
    (hsecond : Separates (unsigned expression.toList) second afterSecond)
    (hlt : first.length < second.length) :
    Pattern.parse expression =
      .error (.manySeparators (String.ofList (unsigned expression.toList))) := by
  have hlength := two_lt_length_fields hfirst hsecond hlt
  unfold Pattern.parse
  rw [takeSign_eq]
  dsimp only
  split
  next file hfields => simp [hfields] at hlength
  next file rule hfields => simp [hfields] at hlength
  next => rfl

theorem parse_source (glob : Glob) : Glob.parse glob.source = .ok glob := by
  rw [Glob.parse_of_wellFormed glob.wellFormed]
  exact congrArg Except.ok (Glob.ext_source rfl)

theorem parse_eq_error_of_ne_ok {text : String} (h : ∀ glob, Glob.parse text ≠ .ok glob) :
    Glob.parse text = .error ⟨text⟩ := by
  cases hparse : Glob.parse text with
  | ok glob => exact absurd hparse (h glob)
  | error error => rw [(Glob.parse_eq_error_iff.mp hparse).2]

theorem parsed_parse (expression : String) : Parsed expression (Pattern.parse expression) := by
  rcases exists_reads_or_manySeparators (unsigned expression.toList) with
    ⟨file, rule, h⟩ | ⟨first, second, _, _, hfirst, hsecond, hlt⟩
  · rw [parse_of_reads h]
    unfold Pattern.globOf
    cases hfile : Glob.parse (String.ofList file) with
    | error error =>
        rw [(Glob.parse_eq_error_iff.mp hfile).2]
        exact .fileRefused h (by simp [hfile])
    | ok fileGlob =>
        cases hrule : Glob.parse (String.ofList (ruleText rule)) with
        | error error =>
            obtain ⟨hglued, rfl⟩ := Glob.parse_eq_error_iff.mp hrule
            -- The glob that describes every rule is not refused, so there is a text for rules.
            match rule with
            | some (c :: text) =>
                exact .ruleRefused h hfile (List.cons_ne_nil c text) (by simp [hrule])
            | some [] => exact absurd hglued (by decide)
            | none => exact absurd hglued (by decide)
        | ok ruleGlob =>
            refine .pattern h (by simp) ?_ ?_
            · exact Glob.source_of_parse hfile
            · exact Glob.source_of_parse hrule
  · rw [parse_of_manySeparators hfirst hsecond hlt]
    exact .manySeparators hfirst hsecond hlt

theorem parse_eq_of_parsed {expression : String} {outcome : Except Pattern.Error Pattern}
    (h : Parsed expression outcome) : Pattern.parse expression = outcome := by
  cases h with
  | manySeparators hfirst hsecond hlt => exact parse_of_manySeparators hfirst hsecond hlt
  | fileRefused h hfile =>
      rw [parse_of_reads h, Pattern.globOf, parse_eq_error_of_ne_ok hfile]
      rfl
  | @ruleRefused file rule glob h hfile hne hrule =>
      obtain ⟨c, text, rfl⟩ := List.exists_cons_of_ne_nil hne
      rw [parse_of_reads h, Pattern.globOf, Pattern.globOf, hfile, ruleText,
        parse_eq_error_of_ne_ok hrule]
      rfl
  | @pattern file rule pattern h hkeeps hfile hrule =>
      have hsign : decide (expression.toList.head? ≠ some '-') = pattern.keeps := by
        cases hkept : pattern.keeps <;> simp [← hkeeps, hkept]
      rw [parse_of_reads h, Pattern.globOf, Pattern.globOf, ← hfile, ← hrule, parse_source,
        parse_source, hsign]
      rfl

/-- Expressions with the same text behind the sign differ in nothing but what the sign says. -/
theorem parse_eq_map_of_unsigned_eq {expression signed : String}
    (h : unsigned signed.toList = unsigned expression.toList) :
    Pattern.parse signed = (Pattern.parse expression).map fun pattern =>
      { pattern with keeps := decide (signed.toList.head? ≠ some '-') } := by
  rcases exists_reads_or_manySeparators (unsigned expression.toList) with
    ⟨file, rule, hreads⟩ | ⟨first, second, _, _, hfirst, hsecond, hlt⟩
  · rw [parse_of_reads hreads]
    rw [← h] at hreads
    rw [parse_of_reads hreads]
    cases Pattern.globOf file with
    | error error => rfl
    | ok fileGlob => cases Pattern.globOf (ruleText rule) <;> rfl
  · rw [parse_of_manySeparators hfirst hsecond hlt]
    rw [← h] at hfirst hsecond
    rw [parse_of_manySeparators hfirst hsecond hlt, h]
    rfl

/-- Parsing an expression comes to exactly what its text says. In front of an expression without
a sign a plus changes nothing, and a minus nothing but the sign of the pattern. -/
theorem parse_eq_iff_parsed (expression : String) :
    (∀ outcome, Pattern.parse expression = outcome ↔ Parsed expression outcome) ∧
    (expression.toList.head? ≠ some '-' → expression.toList.head? ≠ some '+' →
      Pattern.parse ("+" ++ expression) = Pattern.parse expression ∧
        Pattern.parse ("-" ++ expression) =
          (Pattern.parse expression).map fun pattern => { pattern with keeps := false }) := by
  constructor
  · intro outcome
    constructor
    · intro h
      exact h ▸ parsed_parse expression
    · exact parse_eq_of_parsed
  · intro hnominus hnoplus
    have hunsigned : unsigned expression.toList = expression.toList :=
      if_neg (not_or_intro hnominus hnoplus)
    have hplus : unsigned ("+" ++ expression).toList = unsigned expression.toList := by
      rw [hunsigned]
      simp [unsigned]
    have hminus : unsigned ("-" ++ expression).toList = unsigned expression.toList := by
      rw [hunsigned]
      simp [unsigned]
    rw [parse_eq_map_of_unsigned_eq hplus, parse_eq_map_of_unsigned_eq hminus]
    constructor
    · -- Without a sign the pattern keeps findings already, as it does with a plus.
      have hplain := parse_eq_map_of_unsigned_eq (rfl : unsigned expression.toList = _)
      simpa [hnominus] using hplain.symm
    · simp

/-- One backslash shields the colon behind it and two shield none, so the second colon separates
and no text for rules is left behind it. -/
theorem parsed_two_backslashes :
    "a\\:b\\\\:".toList.head? ≠ some '-' ∧ "a\\:b\\\\:".toList.head? ≠ some '+' ∧
      ∃ pattern, Parsed "a\\:b\\\\:" (.ok pattern) ∧ pattern.file.source = "a:b\\" ∧
        pattern.rule.source = "**" ∧ Pattern.parse ("+" ++ "a\\:b\\\\:") = .ok pattern ∧
        Pattern.parse ("-" ++ "a\\:b\\\\:") = .ok { pattern with keeps := false } := by
  obtain ⟨pattern, hparse, hfile, hrule⟩ : ∃ pattern,
      Pattern.parse "a\\:b\\\\:" = .ok pattern ∧ pattern.file.source = "a:b\\" ∧
        pattern.rule.source = "**" := ⟨_, rfl, by decide, by decide⟩
  obtain ⟨hparsed, hsigns⟩ := parse_eq_iff_parsed "a\\:b\\\\:"
  obtain ⟨hplus, hminus⟩ := hsigns (by decide) (by decide)
  rw [hparse] at hplus hminus
  exact ⟨by decide, by decide, pattern, (hparsed _).mp hparse, hfile, hrule, hplus, hminus⟩

end Filter

end Suppression
