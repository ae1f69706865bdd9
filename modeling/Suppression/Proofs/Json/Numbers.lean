import Suppression.Json.Reader
import Suppression.Json.Writer
import Suppression.Proofs.Text.Bytes
import Suppression.Proofs.Text.Digits

/-!
# Reading written numbers

A written integer is read back if it fits into 64 bits, and nothing behind it could
continue a number.
-/

namespace Suppression.Json

open Text (bytes)

/-- No number goes on here. -/
def EndsNumber (rest : List UInt8) : Prop :=
  ∀ byte ∈ rest.head?, digit? byte = none ∧ byte ≠ 0x2E ∧ byte ≠ 0x65 ∧ byte ≠ 0x45

theorem toNat_lt_of_isDigit {c : Char} (h : c.isDigit) : c.toNat < 128 :=
  Nat.lt_of_le_of_lt (Char.isDigit_iff_toNat.mp h).2 (by decide)

theorem digit?_of_isDigit {c : Char} (h : c.isDigit) :
    digit? (UInt8.ofNat c.toNat) = some (c.toNat - '0'.toNat) := by
  have hcode := Text.toNat_ofNat_of_lt (toNat_lt_of_isDigit h)
  have hbounds : 0x30 ≤ UInt8.ofNat c.toNat ∧ UInt8.ofNat c.toNat ≤ 0x39 := by
    rw [UInt8.le_iff_toNat_le, UInt8.le_iff_toNat_le, hcode]
    exact Char.isDigit_iff_toNat.mp h
  rw [digit?, if_pos hbounds, hcode]
  rfl

theorem takeDigits_of_endsNumber {rest : List UInt8} (h : EndsNumber rest) :
    takeDigits rest = ([], rest) := by
  cases rest with
  | nil => rfl
  | cons byte rest => rw [takeDigits, (h byte rfl).1]

theorem takeDigits_append {text : List Char} (htext : ∀ c ∈ text, c.isDigit) {rest : List UInt8}
    (hrest : EndsNumber rest) :
    takeDigits (bytes text ++ rest) = (text.map fun c => c.toNat - '0'.toNat, rest) := by
  induction text with
  | nil => exact takeDigits_of_endsNumber hrest
  | cons c text ih =>
      obtain ⟨hc, htext⟩ := List.forall_mem_cons.mp htext
      rw [Text.bytes_cons_of_lt (toNat_lt_of_isDigit hc), List.cons_append, takeDigits,
        digit?_of_isDigit hc]
      simp only [ih htext, List.map_cons]

/-- Digits are absorbed as long as the number they spell fits into 64 bits. -/
theorem absorb_map {text : List Char} {significand : Nat}
    (h : Nat.ofDigitChars 10 text significand < Decimal.wordSize) :
    absorb significand (text.map fun c => c.toNat - '0'.toNat) =
      (Nat.ofDigitChars 10 text significand, 0) := by
  induction text generalizing significand with
  | nil => rfl
  | cons c text ih =>
      rw [Nat.ofDigitChars_cons, Nat.mul_comm] at h ⊢
      have hroom := Nat.lt_of_le_of_lt (Text.le_ofDigitChars text _) h
      rw [List.map_cons, absorb, if_pos hroom, ih h]

/-- Without a point or an exponent behind the digits, the number is whole. -/
theorem readFraction_of_endsNumber (negative : Bool) {text : List Char} {n : Nat}
    (htext : Nat.ofDigitChars 10 text 0 = n) (h : n < Decimal.wordSize) {rest : List UInt8}
    (hrest : EndsNumber rest) :
    readFraction negative (text.map fun c => c.toNat - '0'.toNat) rest =
      wholeNumber negative n rest := by
  subst htext
  rw [readFraction, absorb_map h]
  dsimp only
  split
  next => exact absurd rfl (hrest _ rfl).2.1
  next => exact absurd rfl (hrest _ rfl).2.2.1
  next => exact absurd rfl (hrest _ rfl).2.2.2
  next => rfl

/-- Only zero begins with a zero, so what is written is read to its end. -/
theorem readNumber_toDigits (negative : Bool) {n : Nat} (h : n < Decimal.wordSize)
    {rest : List UInt8} (hrest : EndsNumber rest) :
    readNumber negative (bytes (Nat.toDigits 10 n) ++ rest) = wholeNumber negative n rest := by
  have hdigits : ∀ c ∈ Nat.toDigits 10 n, c.isDigit :=
    fun c hc => Nat.isDigit_of_mem_toDigits (by decide) (by decide) hc
  have hfraction :=
    readFraction_of_endsNumber negative Nat.ofDigitChars_ten_toDigits h hrest
  rw [readNumber, takeDigits_append hdigits hrest]
  split
  next heq =>
    have hnil := List.map_eq_nil_iff.mp (congrArg Prod.fst heq)
    exact absurd hnil Nat.toDigits_ne_nil
  next heq =>
    have hnil := List.map_eq_nil_iff.mp (congrArg Prod.fst heq)
    exact absurd hnil Nat.toDigits_ne_nil
  next heq =>
    obtain ⟨c, text, htext, hc, hmap⟩ := List.map_eq_cons_iff.mp (congrArg Prod.fst heq)
    rw [htext] at hdigits
    have hlow := (Char.isDigit_iff_toNat.mp (hdigits c List.mem_cons_self)).1
    obtain rfl : c = '0' := Char.toNat_inj.mp (Nat.le_antisymm (Nat.le_of_sub_eq_zero hc) hlow)
    rcases Nat.eq_zero_or_pos n with rfl | hpos
    · cases htext
      cases hmap
    · exact absurd (congrArg List.head? htext) (Text.head?_toDigits_ne_zero hpos)
  next heq =>
    cases heq
    exact hfraction

/-! ## Whole numbers -/

namespace Number

/-- An integer has a place among those of 64 bits, with or without a sign. -/
def Fits : Number → Prop
  | .integer value => -(Decimal.halfSize : Int) ≤ value ∧ value < Decimal.wordSize
  | .float _ => True

/-- The number is whole. Zero with a sign is read as a float, which is written with a point. -/
def IsWhole : Number → Prop
  | .integer _ => True
  | .float value => value = -0.0

end Number

theorem readScalar_of_isDigit {c : Char} (hc : c.isDigit) (limit : Nat) (rest : List UInt8) :
    readScalar limit (UInt8.ofNat c.toNat) rest =
      readNumber false (UInt8.ofNat c.toNat :: rest) >>= fun (number, rest) =>
        .ok (.number number, rest) := by
  have hdigit := digit?_of_isDigit hc
  generalize UInt8.ofNat c.toNat = byte at hdigit ⊢
  unfold readScalar
  split
  case h_6 => rw [hdigit]; rfl
  all_goals cases hdigit

/-- How the written form of a number begins, and that it is read back from there. -/
def Number.ReadBack (number : Number) : Prop :=
  ∃ c text, number.write.toList = c :: text ∧ (c.isDigit ∨ c = '-') ∧
    ∀ limit rest, EndsNumber rest →
      readScalar limit (UInt8.ofNat c.toNat) (bytes text ++ rest) = .ok (.number number, rest)

theorem readBack_natural {n : Nat} (h : n < Decimal.wordSize) : (Number.integer n).ReadBack := by
  have htext : (Number.integer n).write.toList = Nat.toDigits 10 n := Nat.toList_repr
  have hne : Nat.toDigits 10 n ≠ [] := Nat.toDigits_ne_nil
  obtain ⟨c, text, hdigits⟩ := List.exists_cons_of_ne_nil hne
  have hmem : c ∈ Nat.toDigits 10 n := hdigits ▸ List.mem_cons_self
  have hc : c.isDigit := Nat.isDigit_of_mem_toDigits (by decide) (by decide) hmem
  refine ⟨c, text, htext.trans hdigits, .inl hc, ?_⟩
  intro limit rest hrest
  have hread := readNumber_toDigits false h hrest
  rw [hdigits, Text.bytes_cons_of_lt (toNat_lt_of_isDigit hc), List.cons_append] at hread
  rw [readScalar_of_isDigit hc, hread]
  rfl

theorem readBack_negative {n : Nat} (hpos : 0 < n) (h : n ≤ Decimal.halfSize) :
    (Number.integer (-n)).ReadBack := by
  have htext : (Number.integer (-n)).write.toList = '-' :: Nat.toDigits 10 n := by
    obtain ⟨n, rfl⟩ := Nat.exists_eq_succ_of_ne_zero (Nat.ne_of_gt hpos)
    change ("-" ++ (n + 1).repr).toList = _
    rw [String.toList_append, Nat.toList_repr]
    rfl
  refine ⟨'-', Nat.toDigits 10 n, htext, .inr rfl, ?_⟩
  intro limit rest hrest
  have hsize : n < Decimal.wordSize := Nat.lt_of_le_of_lt h (by decide)
  have hwhole : wholeNumber true n rest = .ok (.integer (-n), rest) := by
    rw [wholeNumber, if_neg (by decide), if_neg (by omega)]
  change readNumber true _ >>= _ = _
  rw [readNumber_toDigits true hsize hrest, hwhole]
  rfl

theorem scaledNumber_negativeZero (rest : List UInt8) :
    scaledNumber true 0 (-1) rest = .ok (.float (-0.0), rest) := by
  have hscale : scale (UInt64.ofNat 0).toFloat (-1) = some 0.0 := by
    rw [scale, if_neg (by decide), if_neg (by decide), if_pos (by decide)]
    decide +kernel
  rw [scaledNumber, hscale]
  rfl

theorem readScale_of_endsNumber (negative : Bool) (significand : Nat) (shift : Int)
    {rest : List UInt8} (hrest : EndsNumber rest) :
    readScale negative significand shift rest = scaledNumber negative significand shift rest := by
  unfold readScale
  split
  next => exact absurd rfl (hrest _ rfl).2.2.1
  next => exact absurd rfl (hrest _ rfl).2.2.2
  next => rfl

/-- The sign survives, and the point makes it a float again. -/
theorem readBack_negativeZero : (Number.float (-0.0)).ReadBack := by
  have htext : (Number.float (-0.0)).write.toList = '-' :: ['0', '.', '0'] := by decide +kernel
  refine ⟨'-', ['0', '.', '0'], htext, .inr rfl, ?_⟩
  intro limit rest hrest
  have hzero : ∀ c ∈ ['0'], c.isDigit := List.forall_mem_singleton.mpr rfl
  have hdecimals : takeDigits (0x30 :: rest) = ([0], rest) := takeDigits_append hzero hrest
  have hfraction : readFraction true [0] (0x2E :: 0x30 :: rest) = readScale true 0 (-1) rest := by
    simp only [readFraction, hdecimals]
    rfl
  have hnumber : readNumber true (0x30 :: 0x2E :: 0x30 :: rest) =
      .ok (.float (-0.0), rest) := by
    change readFraction true [0] (0x2E :: 0x30 :: rest) = _
    rw [hfraction, readScale_of_endsNumber _ _ _ hrest, scaledNumber_negativeZero]
  change readNumber true (0x30 :: 0x2E :: 0x30 :: rest) >>= _ = _
  rw [hnumber]
  rfl

theorem readBack_of_fits {number : Number} (hfits : number.Fits) (hwhole : number.IsWhole) :
    number.ReadBack := by
  cases number with
  | integer value =>
      obtain ⟨n, rfl | rfl⟩ := value.eq_nat_or_neg
      · exact readBack_natural (Int.ofNat_lt.mp hfits.2)
      · rcases Nat.eq_zero_or_pos n with rfl | hpos
        · exact readBack_natural (by decide)
        · exact readBack_negative hpos (Int.ofNat_le.mp (Int.neg_le_neg_iff.mp hfits.1))
  | float value =>
      cases hwhole
      exact readBack_negativeZero

/-! ## Numbers that are read -/

theorem absorb_lt {significand : Nat} (h : significand < Decimal.wordSize) (digits : List Nat) :
    (absorb significand digits).1 < Decimal.wordSize := by
  induction digits generalizing significand with
  | nil => exact h
  | cons d digits ih =>
      rw [absorb]
      split
      next hroom => exact ih hroom
      next => exact h

theorem fits_of_scaledNumber {negative : Bool} {significand : Nat} {exponent : Int}
    {bytes rest : List UInt8} {number : Number}
    (h : scaledNumber negative significand exponent bytes = .ok (number, rest)) : number.Fits := by
  unfold scaledNumber at h
  split at h
  next => cases h
  next =>
    cases h
    trivial

theorem fits_of_readExponentDigits {negative negativeExponent : Bool} {significand exponent : Nat}
    {shift : Int} {bytes rest : List UInt8} {number : Number}
    (h : readExponentDigits negative significand shift negativeExponent exponent bytes =
      .ok (number, rest)) : number.Fits := by
  induction bytes generalizing exponent with
  | nil => exact fits_of_scaledNumber h
  | cons byte bytes ih =>
      rw [readExponentDigits] at h
      split at h
      next => exact fits_of_scaledNumber h
      next =>
      split at h
      next => exact ih h
      next =>
      split at h
      next => cases h
      next =>
        cases h
        trivial

theorem fits_of_readScale {negative : Bool} {significand : Nat} {shift : Int}
    {bytes rest : List UInt8} {number : Number}
    (h : readScale negative significand shift bytes = .ok (number, rest)) : number.Fits := by
  have hexponent (bytes : List UInt8)
      (h : readExponent negative significand shift bytes = .ok (number, rest)) : number.Fits := by
    unfold readExponent at h
    dsimp only at h
    split at h
    next => cases h
    next =>
    split at h
    next => cases h
    next => exact fits_of_readExponentDigits h
  unfold readScale at h
  split at h
  next => exact hexponent _ h
  next => exact hexponent _ h
  next => exact fits_of_scaledNumber h

theorem fits_of_wholeNumber {negative : Bool} {significand : Nat} {bytes rest : List UInt8}
    {number : Number} (hsize : significand < Decimal.wordSize)
    (h : wholeNumber negative significand bytes = .ok (number, rest)) : number.Fits := by
  unfold wholeNumber at h
  split at h
  next =>
    cases h
    exact ⟨by omega, Int.ofNat_lt.mpr hsize⟩
  next =>
  split at h
  next =>
    cases h
    trivial
  next hroom =>
    cases h
    exact ⟨by omega, by omega⟩

theorem fits_of_readFraction {negative : Bool} {digits : List Nat} {bytes rest : List UInt8}
    {number : Number} (h : readFraction negative digits bytes = .ok (number, rest)) :
    number.Fits := by
  have hsize : (absorb 0 digits).1 < Decimal.wordSize := absorb_lt (by decide) digits
  unfold readFraction at h
  dsimp only at h
  split at h
  next =>
    split at h
    next => split at h <;> cases h
    next => exact fits_of_readScale h
  next => exact fits_of_readScale h
  next => exact fits_of_readScale h
  next =>
    split at h
    next => exact fits_of_wholeNumber hsize h
    next => exact fits_of_scaledNumber h

theorem fits_of_readNumber {negative : Bool} {bytes rest : List UInt8} {number : Number}
    (h : readNumber negative bytes = .ok (number, rest)) : number.Fits := by
  unfold readNumber at h
  split at h
  next => cases h
  next => cases h
  next => cases h
  next => exact fits_of_readFraction h

end Suppression.Json
