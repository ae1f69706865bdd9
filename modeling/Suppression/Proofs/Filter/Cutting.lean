import Mathlib.Algebra.Ring.Parity
import Mathlib.Data.List.DropRight
import Suppression.Filter.Basic

/-!
# Cutting a filter

How a filter is cut into words and a word into fields, a character at a time. A backslash
takes the character behind it along, so what is cut behind a text depends on whether the
text ends in a backslash that still waits for its character.
-/

namespace Suppression.Filter

open Text

theorem foldr_consFirst (text first : List Char) (rest : List (List Char)) :
    text.foldr consFirst (first :: rest) = (text ++ first) :: rest := by
  induction text with
  | nil => rfl
  | cons c text ih => rw [List.foldr_cons, ih]; rfl

theorem consFirst_ne_nil (c : Char) (pieces : List (List Char)) : consFirst c pieces ≠ [] := by
  cases pieces <;> simp [consFirst]

theorem consFirst_append {pieces : List (List Char)} (h : pieces ≠ []) (c : Char)
    (rest : List (List Char)) : consFirst c (pieces ++ rest) = consFirst c pieces ++ rest := by
  cases pieces with
  | nil => exact absurd rfl h
  | cons first pieces => rfl

/-- The text in front joins the first piece, and the other pieces stay. -/
theorem forall_mem_foldr_consFirst {holds : List Char → Prop} {pieces : List (List Char)}
    (hne : pieces ≠ []) (text : List Char) (hfirst : ∀ first ∈ pieces, holds (text ++ first))
    (hpieces : ∀ piece ∈ pieces, holds piece) :
    ∀ piece ∈ text.foldr consFirst pieces, holds piece := by
  obtain ⟨first, rest, rfl⟩ := List.exists_cons_of_ne_nil hne
  rw [foldr_consFirst]
  rw [List.forall_mem_cons] at hfirst hpieces ⊢
  exact ⟨hfirst.1, hpieces.2⟩

theorem ne_backslash_of_isBlank {c : Char} (h : isBlank c = true) : c ≠ '\\' := by
  intro hc
  subst hc
  exact absurd h (by decide)

/-! ## Open ends -/

/-- The text ends in a backslash that belongs to the character behind the text. -/
def endsOpen : List Char → Bool
  | [] => false
  | ['\\'] => true
  | '\\' :: _ :: text => endsOpen text
  | _ :: text => endsOpen text

theorem endsOpen_cons {c : Char} (h : c ≠ '\\') (text : List Char) :
    endsOpen (c :: text) = endsOpen text := by
  rw [endsOpen] <;> simp [h]

theorem endsOpen_concat (text : List Char) (c : Char) :
    endsOpen (text ++ [c]) = (decide (c = '\\') && !endsOpen text) := by
  fun_induction endsOpen text with
  | case1 =>
      by_cases hc : c = '\\'
      · subst hc
        rfl
      · simp [endsOpen_cons hc, endsOpen, hc]
  | case2 => simp [endsOpen]
  | case3 d text ih => simpa [endsOpen] using ih
  | case4 d text hlast hpair ih =>
      have hd : d ≠ '\\' := by
        intro heq
        cases text with
        | nil => exact hlast heq rfl
        | cons e text => exact hpair e text heq rfl
      rw [List.cons_append, endsOpen_cons hd, ih]

/-- A text ends open if it ends in an odd number of backslashes. -/
theorem endsOpen_iff_odd (text : List Char) :
    endsOpen text = true ↔ Odd (text.rtakeWhile (· = '\\')).length := by
  induction text using List.reverseRecOn with
  | nil => simp [endsOpen]
  | append_singleton text c ih =>
      rw [endsOpen_concat, List.rtakeWhile_concat]
      by_cases hc : c = '\\'
      · simp [hc, Nat.odd_add_one, ← ih]
      · simp [hc]

/-- A character other than a backslash lets no backslash in front of it take along what follows. -/
theorem endsOpen_append_cons {c : Char} (hc : c ≠ '\\') (front back : List Char) :
    endsOpen (front ++ c :: back) = endsOpen back := by
  induction back using List.reverseRecOn with
  | nil => simp [endsOpen_concat, hc, endsOpen]
  | append_singleton back d ih =>
      have happend : front ++ c :: (back ++ [d]) = front ++ c :: back ++ [d] := by simp
      rw [happend, endsOpen_concat, endsOpen_concat, ih]

/-! ## Cuts that no backslash shields -/

/-- The pieces of a text between the separating characters that no backslash takes along. -/
def cutUnshielded (separates : Char → Bool) : List Char → List (List Char)
  | [] => [[]]
  | '\\' :: c :: text => consFirst '\\' (consFirst c (cutUnshielded separates text))
  | c :: text =>
      if separates c then [] :: cutUnshielded separates text
      else consFirst c (cutUnshielded separates text)

section

variable {separates : Char → Bool}

theorem cutUnshielded_cons {c : Char} (hbackslash : c ≠ '\\') (text : List Char) :
    cutUnshielded separates (c :: text) =
      if separates c then [] :: cutUnshielded separates text
      else consFirst c (cutUnshielded separates text) := by
  rw [cutUnshielded]
  intro d rest hc _
  exact hbackslash hc

theorem cutUnshielded_ne_nil (text : List Char) : cutUnshielded separates text ≠ [] := by
  fun_cases cutUnshielded separates text with
  | case1 => simp
  | case2 c text => exact consFirst_ne_nil _ _
  | case3 c text => simp
  | case4 c text => exact consFirst_ne_nil _ _

/-- A separator behind a text that does not end open is a cut. -/
theorem cutUnshielded_append_cons {text : List Char} (h : endsOpen text = false) {c : Char}
    (hbackslash : c ≠ '\\') (hc : separates c = true) (behind : List Char) :
    cutUnshielded separates (text ++ c :: behind) =
      cutUnshielded separates text ++ cutUnshielded separates behind := by
  fun_induction cutUnshielded separates text with
  | case1 =>
      rw [List.nil_append, cutUnshielded_cons hbackslash, if_pos hc]
      rfl
  | case2 d text ih =>
      have htext := ih (by simpa [endsOpen] using h)
      rw [List.cons_append, List.cons_append, cutUnshielded, htext,
        consFirst_append (cutUnshielded_ne_nil text), consFirst_append (consFirst_ne_nil _ _)]
  | case3 d text hpair hd ih =>
      have hne : d ≠ '\\' := by
        rintro rfl
        cases text with
        | nil => exact absurd h (by decide)
        | cons e text => exact hpair e text rfl rfl
      rw [endsOpen_cons hne] at h
      rw [List.cons_append, cutUnshielded_cons hne, if_pos hd, ih h, List.cons_append]
  | case4 d text hpair hd ih =>
      have hne : d ≠ '\\' := by
        rintro rfl
        cases text with
        | nil => exact absurd h (by decide)
        | cons e text => exact hpair e text rfl rfl
      rw [endsOpen_cons hne] at h
      rw [List.cons_append, cutUnshielded_cons hne, if_neg hd, ih h,
        consFirst_append (cutUnshielded_ne_nil text)]

/-- A text in which a backslash takes every separator along stays in one piece. -/
theorem cutUnshielded_eq_singleton {text : List Char}
    (h : ∀ before c after, text = before ++ c :: after → separates c = true →
      endsOpen before = true) : cutUnshielded separates text = [text] := by
  fun_induction cutUnshielded separates text with
  | case1 => rfl
  | case2 c text ih =>
      rw [ih]
      · rfl
      · intro before d after hcut hd
        have hopen := h ('\\' :: c :: before) d after (by rw [hcut]; rfl) hd
        rwa [endsOpen] at hopen
  | case3 c text _ hc => exact absurd (h [] c text rfl hc) (by decide)
  | case4 c text hpair _ ih =>
      rw [ih]
      · rfl
      · intro before d after hcut hd
        have hopen := h (c :: before) d after (by rw [hcut]; rfl) hd
        rwa [endsOpen_cons] at hopen
        intro hc
        cases text with
        | nil => simp at hcut
        | cons e text => exact hpair e text hc rfl

theorem length_cutUnshielded_pos (separates : Char → Bool) (text : List Char) :
    0 < (cutUnshielded separates text).length :=
  List.length_pos_of_ne_nil (cutUnshielded_ne_nil text)

theorem length_cutUnshielded_eq_one_iff (hbackslash : separates '\\' = false)
    (text : List Char) : (cutUnshielded separates text).length = 1 ↔
      ∀ before c after, text = before ++ c :: after → separates c = true →
        endsOpen before = true := by
  constructor
  · rintro hone before c after rfl hc
    by_contra hopen
    have hclosed : endsOpen before = false := by simpa using hopen
    have hne : c ≠ '\\' := by
      rintro rfl
      exact absurd (hbackslash.symm.trans hc) (by decide)
    rw [cutUnshielded_append_cons hclosed hne hc, List.length_append] at hone
    have hbefore := length_cutUnshielded_pos separates before
    have hafter := length_cutUnshielded_pos separates after
    omega
  · intro h
    rw [cutUnshielded_eq_singleton h]
    rfl

end

/-! ## Words -/

theorem cutAtBlanks_eq_cutUnshielded (text : List Char) :
    cutAtBlanks text = cutUnshielded isBlank text := by
  fun_induction cutAtBlanks text with
  | case1 => rfl
  | case2 c text ih => rw [cutUnshielded, ih]
  | case3 c text hpair hc ih => rw [cutUnshielded, if_pos hc, ih]; exact hpair
  | case4 c text hpair hc ih => rw [cutUnshielded, if_neg hc, ih]; exact hpair

theorem cutAtBlanks_cons {c : Char} (hbackslash : c ≠ '\\') (hblank : isBlank c = false)
    (text : List Char) : cutAtBlanks (c :: text) = consFirst c (cutAtBlanks text) := by
  rw [cutAtBlanks_eq_cutUnshielded, cutUnshielded_cons hbackslash, hblank,
    cutAtBlanks_eq_cutUnshielded]
  rfl

theorem cutAtBlanks_cons_blank {c : Char} (h : isBlank c = true) (text : List Char) :
    cutAtBlanks (c :: text) = [] :: cutAtBlanks text := by
  rw [cutAtBlanks_eq_cutUnshielded, cutUnshielded_cons (ne_backslash_of_isBlank h), if_pos h,
    cutAtBlanks_eq_cutUnshielded]

theorem cutAtBlanks_ne_nil (text : List Char) : cutAtBlanks text ≠ [] := by
  rw [cutAtBlanks_eq_cutUnshielded]
  exact cutUnshielded_ne_nil text

/-- A blank behind a text that does not end open is a cut. -/
theorem cutAtBlanks_append_blank {text : List Char} (h : endsOpen text = false) {blank : Char}
    (hblank : isBlank blank = true) (behind : List Char) :
    cutAtBlanks (text ++ blank :: behind) = cutAtBlanks text ++ cutAtBlanks behind := by
  simp only [cutAtBlanks_eq_cutUnshielded]
  exact cutUnshielded_append_cons h (ne_backslash_of_isBlank hblank) hblank behind

theorem words_append_blank {first : String} (h : endsOpen first.toList = false) {blank : Char}
    (hblank : isBlank blank = true) (second : String) :
    words (first ++ String.singleton blank ++ second) = words first ++ words second := by
  have htext : (first ++ String.singleton blank ++ second).toList =
      first.toList ++ blank :: second.toList := by simp
  rw [words, htext, cutAtBlanks_append_blank h hblank, List.filter_append, List.map_append]
  rfl

/-- One backslash shields the blank behind it, and two shield nothing. -/
example : words "a\\ b" = ["a\\ b"] ∧ words "a\\\\ b" = ["a\\\\", "b"] := by decide

/-! ## Fields -/

theorem isEscapable_eq_false_of_isBlank {c : Char} (h : isBlank c = true) :
    Pattern.isEscapable c = false := by
  by_contra hescapable
  simp only [Pattern.isEscapable, Bool.not_eq_false, Bool.or_eq_true, decide_eq_true_eq]
    at hescapable
  rcases hescapable with ((rfl | rfl) | rfl) | rfl <;> exact absurd h (by decide)

theorem ne_of_isEscapable_eq_false {c : Char} (h : Pattern.isEscapable c = false) :
    c ≠ '\\' ∧ c ≠ ':' := by
  constructor
  · rintro rfl
    exact absurd h (by decide)
  · rintro rfl
    exact absurd h (by decide)

theorem fields_cons {c : Char} (hbackslash : c ≠ '\\') (hcolon : c ≠ ':')
    (text : List Char) : Pattern.fields (c :: text) = consFirst c (Pattern.fields text) := by
  rw [Pattern.fields]
  · simp [hcolon]
  · intro d rest hc _
    exact hbackslash hc

theorem fields_ne_nil (text : List Char) : Pattern.fields text ≠ [] := by
  fun_cases Pattern.fields text with
  | case1 => simp
  | case2 c text => exact consFirst_ne_nil _ _
  | case3 c text => exact consFirst_ne_nil _ _
  | case4 text => simp
  | case5 c text => exact consFirst_ne_nil _ _

end Suppression.Filter
