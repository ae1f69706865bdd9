import Suppression.Proofs.Text.Digits
import Suppression.Toml.Scalar
import Mathlib.Data.List.TakeWhile

/-!
# Whole numbers are read back

The decimal digits of a number are read as its numeral, and as nothing else that stands without
quotes. The numeral has a value if the number has a place among the integers of 64 bits.
-/

namespace Suppression.Toml

/-! ## Digits are no date and no time -/

theorem exists_of_readPair {limit value : Nat} {text rest : List Char}
    (h : readPair limit text = some (value, rest)) : ∃ a b, text = a :: b :: rest := by
  unfold readPair at h
  split at h
  next a b behind =>
    obtain ⟨first, -, h⟩ := Option.bind_eq_some_iff.mp h
    obtain ⟨second, -, h⟩ := Option.bind_eq_some_iff.mp h
    dsimp only at h
    split at h
    · cases h
      exact ⟨a, b, rfl⟩
    · cases h
  next => cases h

theorem readDate_eq_none {text : List Char} (h : '-' ∉ text) : readDate text = none := by
  refine Option.eq_none_iff_forall_ne_some.mpr fun date hdate => ?_
  obtain ⟨⟨century, rest⟩, hcentury, hyears⟩ := Option.bind_eq_some_iff.mp hdate
  obtain ⟨⟨year, behind⟩, hyear, hmonths⟩ := Option.bind_eq_some_iff.mp hyears
  obtain ⟨a, b, rfl⟩ := exists_of_readPair hcentury
  obtain ⟨c, d, rfl⟩ := exists_of_readPair hyear
  dsimp only at hmonths
  split at hmonths
  next => simp at h
  next => cases hmonths

theorem readTime_eq_none {text : List Char} (h : ':' ∉ text) : readTime text = none := by
  refine Option.eq_none_iff_forall_ne_some.mpr fun time htime => ?_
  obtain ⟨⟨hour, rest⟩, hhour, hminutes⟩ := Option.bind_eq_some_iff.mp htime
  obtain ⟨a, b, rfl⟩ := exists_of_readPair hhour
  dsimp only at hminutes
  split at hminutes
  next => simp at h
  next => cases hminutes

section Digits

variable {digits : List Char}

theorem not_mem_of_isDigit {c : Char} (h : ∀ d ∈ digits, d.isDigit) (hc : c.isDigit = false) :
    c ∉ digits := by
  intro hmem
  rw [h c hmem] at hc
  cases hc

theorem readMoment?_digits (h : ∀ c ∈ digits, c.isDigit) : readMoment? digits = none := by
  rw [readMoment?, readDate_eq_none (not_mem_of_isDigit h rfl),
    readTime_eq_none (not_mem_of_isDigit h rfl)]

/-- Digits without a superfluous zero are an integer. -/
theorem readNumeral?_digits (hne : digits ≠ []) (h : ∀ c ∈ digits, c.isDigit)
    (hzero : digits.head? ≠ some '0' ∨ digits = ['0']) :
    readNumeral? digits = some (.integer 10 digits) := by
  have hunsigned : (Text.takeSign digits).2 = digits := by
    cases digits with
    | nil => rfl
    | cons c digits => rw [Text.takeSign_of_isDigit (h c List.mem_cons_self)]
  have hword : digits ∉ numberWords := by
    intro hmem
    simp only [numberWords, List.mem_cons, List.not_mem_nil, or_false] at hmem
    rcases hmem with rfl | rfl
    · cases h 'i' List.mem_cons_self
    · cases h 'n' List.mem_cons_self
  have hend : digits.dropWhile Char.isDigit = [] := by
    rw [List.dropWhile_eq_nil_iff]
    exact h
  have hjoin : joinGroups? (fun c => (digitBelow 16 c).isSome) digits = some digits := by
    have honly : Text.pieces (· = '_') digits = [digits] := by
      refine Text.pieces_eq_singleton fun c hc => decide_eq_false ?_
      rintro rfl
      cases h '_' hc
    rw [joinGroups?, honly]
  have hdecimal : readDecimal? digits digits = some (.integer 10 digits) := by
    simp only [readDecimal?, hend, List.any_nil, hjoin]
    simp [hzero]
  have hgrouped : digits.head?.any isGrouped = true := by
    cases digits with
    | nil => exact absurd rfl hne
    | cons c digits => simp [isGrouped, h c List.mem_cons_self]
  have hmark : ∀ mark rest, mark.isDigit = false → digits ≠ '0' :: mark :: rest := by
    rintro mark rest hmark rfl
    exact not_mem_of_isDigit h hmark (by simp)
  rw [readNumeral?, hunsigned, if_neg hword, if_pos hgrouped, hdecimal]
  · exact fun rest => hmark 'x' rest rfl
  · exact fun rest => hmark 'o' rest rfl
  · exact fun rest => hmark 'b' rest rfl

theorem readBare?_digits (hne : digits ≠ []) (h : ∀ c ∈ digits, c.isDigit)
    (hzero : digits.head? ≠ some '0' ∨ digits = ['0']) :
    readBare? digits = some (.number (.integer 10 digits)) := by
  have htrue : digits ≠ ['t', 'r', 'u', 'e'] := by
    rintro rfl
    cases h 't' List.mem_cons_self
  have hfalse : digits ≠ ['f', 'a', 'l', 's', 'e'] := by
    rintro rfl
    cases h 'f' List.mem_cons_self
  rw [readBare?, if_neg htrue, if_neg hfalse, readMoment?_digits h,
    readNumeral?_digits hne h hzero]
  rfl

/-- Digits at the end of a line are a bare value. -/
theorem takeBare_digits (h : ∀ c ∈ digits, c.isDigit) (rest : List Char) :
    takeBare (digits ++ '\n' :: rest) = (digits, '\n' :: rest) := by
  have hbare : ∀ c ∈ digits, isBareValueChar c := by
    intro c hc
    have hends : bareEnds.all (fun c => !c.isDigit) = true := rfl
    rw [isBareValueChar, Bool.not_eq_true', List.contains_eq_mem, decide_eq_false_iff_not]
    intro hmem
    have hdigit := List.all_eq_true.mp hends c hmem
    rw [h c hc] at hdigit
    cases hdigit
  have hfirst : (digits ++ '\n' :: rest).takeWhile isBareValueChar = digits := by
    rw [List.takeWhile_append_of_pos hbare, List.takeWhile_cons_of_neg (by decide),
      List.append_nil]
  unfold takeBare
  simp only [hfirst, List.drop_left]
  split
  next heq => cases heq
  next => rfl

end Digits

/-! ## Values -/

theorem digitBelow_of_isDigit {c : Char} (h : c.isDigit) :
    digitBelow 10 c = some (c.toNat - '0'.toNat) := by
  obtain ⟨hlow, hhigh⟩ := Char.isDigit_iff_toNat.mp h
  have hvalue : Text.hexValue? c = some (c.toNat - '0'.toNat) := by
    rw [Text.hexValue?, if_pos]
    · rfl
    · exact ⟨hlow, hhigh⟩
  have hten : c.toNat - '0'.toNat < 10 := by
    change c.toNat ≤ 57 at hhigh
    change c.toNat - 48 < 10
    omega
  rw [digitBelow, hvalue, Option.filter_some, if_pos (decide_eq_true hten)]

theorem isSigned_natCast (n : Nat) : Decimal.isSigned n = decide (n < Decimal.halfSize) := by
  have hlow : -(Decimal.halfSize : Int) ≤ n := by omega
  simp [Decimal.isSigned, hlow]

theorem addDigit_of_isDigit {c : Char} (h : c.isDigit) (value : Nat) :
    Numeral.addDigit 10 false value c =
      if 10 * value + (c.toNat - '0'.toNat) < Decimal.halfSize then
        .ok ((10 * value + (c.toNat - '0'.toNat) : Nat) : Int)
      else .error .tooGreat := by
  have hnext : (value : Int) * (10 : Nat) + Text.signed false (c.toNat - '0'.toNat) =
      ((10 * value + (c.toNat - '0'.toNat) : Nat) : Int) := by
    simp [Text.signed, Int.mul_comm]
  simp only [Numeral.addDigit, digitBelow_of_isDigit h, hnext, isSigned_natCast,
    decide_eq_true_eq]
  rfl

/-- Digits spell a number, which has to fit. -/
theorem foldlM_addDigit {digits : List Char} (h : ∀ c ∈ digits, c.isDigit) {value : Nat}
    (hvalue : value < Decimal.halfSize) :
    digits.foldlM (Numeral.addDigit 10 false) (value : Int) =
      if Nat.ofDigitChars 10 digits value < Decimal.halfSize then
        .ok (Nat.ofDigitChars 10 digits value : Int)
      else .error .tooGreat := by
  induction digits generalizing value with
  | nil =>
      rw [Nat.ofDigitChars_nil, if_pos hvalue]
      rfl
  | cons c digits ih =>
      obtain ⟨hc, hdigits⟩ := List.forall_mem_cons.mp h
      rw [List.foldlM_cons, addDigit_of_isDigit hc, Nat.ofDigitChars_cons]
      by_cases hnext : 10 * value + (c.toNat - '0'.toNat) < Decimal.halfSize
      · rw [if_pos hnext]
        exact ih hdigits hnext
      · -- What is too great stays so, whatever digits follow.
        have hle := Text.le_ofDigitChars digits (10 * value + (c.toNat - '0'.toNat))
        rw [if_neg hnext, if_neg (fun hlt => hnext (Nat.lt_of_le_of_lt hle hlt))]
        rfl

/-- The written form of a number has its value, if that is not too great. -/
theorem toInteger_toDigits (n : Nat) :
    Numeral.toInteger 10 (Nat.toDigits 10 n) =
      if n < Decimal.halfSize then .ok (n : Int) else .error .tooGreat := by
  have hdigits : ∀ c ∈ Nat.toDigits 10 n, c.isDigit := fun c hc =>
    Nat.isDigit_of_mem_toDigits (by decide) (by decide) hc
  have hsign : Text.takeSign (Nat.toDigits 10 n) = (false, Nat.toDigits 10 n) := by
    cases htext : Nat.toDigits 10 n with
    | nil => rfl
    | cons c digits =>
        exact Text.takeSign_of_isDigit (hdigits c (htext ▸ List.mem_cons_self)) digits
  have hne : Nat.toDigits 10 n ≠ [] := Nat.toDigits_ne_nil
  have hfold := @foldlM_addDigit _ hdigits 0 (by decide)
  rw [Nat.ofDigitChars_toDigits (by decide) (by decide)] at hfold
  simp only [Numeral.toInteger, hsign, if_neg hne]
  exact hfold

end Suppression.Toml
