import Suppression.Text.Digits

/-!
# Digits

Digits have no case and are no signs. A number that is written with digits does not begin with
a superfluous zero.
-/

namespace Suppression.Text

theorem toLower_of_isDigit {c : Char} (h : c.isDigit) : c.toLower = c := by
  obtain ⟨hlow, hhigh⟩ := Char.isDigit_iff_toNat.mp h
  refine dif_neg ?_
  rintro ⟨hupper, -⟩
  have hle : 'A'.toNat ≤ c.toNat := UInt32.le_iff_toNat_le.mp hupper
  have hnine : '9'.toNat < 'A'.toNat := by decide
  omega

theorem takeSign_of_ne {c : Char} (hminus : c ≠ '-') (hplus : c ≠ '+') (rest : List Char) :
    takeSign (c :: rest) = (false, c :: rest) := by
  unfold takeSign
  split <;> simp_all

theorem takeSign_of_isDigit {c : Char} (h : c.isDigit) (rest : List Char) :
    takeSign (c :: rest) = (false, c :: rest) := by
  apply takeSign_of_ne
  · rintro rfl
    exact absurd h (by decide)
  · rintro rfl
    exact absurd h (by decide)

theorem le_ofDigitChars (text : List Char) (value : Nat) :
    value ≤ Nat.ofDigitChars 10 text value := by
  rw [Nat.ofDigitChars_eq_ofDigitChars_zero]
  have hpow : 0 < 10 ^ text.length := Nat.pow_pos (by decide)
  exact Nat.le_add_right_of_le (Nat.le_mul_of_pos_left _ hpow)

theorem head?_toDigits_ne_zero {n : Nat} (h : 0 < n) :
    (Nat.toDigits 10 n).head? ≠ some '0' := by
  induction n using Nat.base_induction 10 (by decide) with
  | single n hn =>
      have hall : ∀ n < 10, 0 < n → n.digitChar ≠ '0' := by decide
      rw [Nat.toDigits_of_lt_base hn]
      simpa using hall n hn h
  | digit n d hd hn ih =>
      have hne : (Nat.toDigits 10 n).head? ≠ none := by simp
      obtain ⟨c, hc⟩ := Option.ne_none_iff_exists'.mp hne
      rw [← Nat.toDigits_append_toDigits (by decide) hn hd, List.head?_append, hc]
      rw [hc] at ih
      exact ih hn

end Suppression.Text
