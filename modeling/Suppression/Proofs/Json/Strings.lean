import Suppression.Json.Reader
import Suppression.Json.Writer
import Suppression.Proofs.Text.Bytes

/-!
# Reading written strings

Quotes, backslashes and control characters are written as escapes, which are read back.
All other characters stand for themselves, byte by byte.
-/

namespace Suppression.Json

open Text (bytes)

/-- Behind the quote of a string stand bytes that are read as `content`, whatever is left of a
limit that they do not exceed. -/
def ReadsString (text content rest : List UInt8) : Prop :=
  ∀ fuel, text.length ≤ fuel → readStringBytes fuel text = .ok (content, rest)

theorem readsString_quote (rest : List UInt8) : ReadsString (0x22 :: rest) [] rest := by
  intro fuel hfuel
  cases fuel with
  | zero => cases hfuel
  | succ fuel => rfl

namespace ReadsString

variable {text content rest : List UInt8}

/-- A byte that is no quote, backslash or control character stands for itself. -/
theorem plain {byte : UInt8} (hcontrol : ¬ byte < 0x20) (hquote : byte ≠ 0x22)
    (hbackslash : byte ≠ 0x5C) (h : ReadsString text content rest) :
    ReadsString (byte :: text) (byte :: content) rest := by
  intro fuel hfuel
  cases fuel with
  | zero => cases hfuel
  | succ fuel =>
      unfold readStringBytes
      split
      next heq => cases heq
      next heq => exact absurd (List.cons.inj heq).1 hquote
      next heq => exact absurd (List.cons.inj heq).1 hbackslash
      next heq =>
        cases heq
        rw [if_neg hcontrol, h fuel (Nat.le_of_succ_le_succ hfuel)]
        rfl

theorem plains {plain : List UInt8} (hplain : ∀ byte ∈ plain, 128 ≤ byte.toNat)
    (h : ReadsString text content rest) :
    ReadsString (plain ++ text) (plain ++ content) rest := by
  induction plain with
  | nil => exact h
  | cons byte plain ih =>
      obtain ⟨hbyte, hplain⟩ := List.forall_mem_cons.mp hplain
      refine (ih hplain).plain ?_ ?_ ?_
      · intro hlt
        exact absurd (Nat.lt_of_le_of_lt hbyte (UInt8.lt_iff_toNat_lt.mp hlt)) (by decide)
      · rintro rfl
        exact absurd hbyte (by decide)
      · rintro rfl
        exact absurd hbyte (by decide)

theorem escape {code : List UInt8} {c : Char}
    (hcode : readEscape (code ++ text) = .ok (c, text)) (h : ReadsString text content rest) :
    ReadsString (0x5C :: code ++ text) (String.utf8EncodeChar c ++ content) rest := by
  intro fuel hfuel
  cases fuel with
  | zero => cases hfuel
  | succ fuel =>
      have hrest : text.length ≤ fuel := by
        rw [List.cons_append, List.length_cons, List.length_append] at hfuel
        omega
      rw [List.cons_append]
      change (readEscape (code ++ text) >>= _) = _
      rw [hcode]
      change (readStringBytes fuel text >>= _) = _
      rw [h fuel hrest]
      rfl

end ReadsString

theorem hexDigit_lt {n : Nat} (h : n < 16) : (Text.hexDigit n).toNat < 128 := by
  have hall : ∀ n < 16, (Text.hexDigit n).toNat < 128 := by decide
  exact hall n h

theorem hexValue?_hexDigit {n : Nat} (h : n < 16) :
    hexValue? (UInt8.ofNat (Text.hexDigit n).toNat) = some n := by
  have hall : ∀ n < 16, hexValue? (UInt8.ofNat (Text.hexDigit n).toNat) = some n := by decide
  exact hall n h

theorem readHex_hexDigit {n : Nat} (h : n < 256) (text : List UInt8) :
    readHex (0x30 :: 0x30 :: (bytes [Text.hexDigit (n / 16), Text.hexDigit (n % 16)] ++ text)) =
      .ok (n, text) := by
  have hhigh : n / 16 < 16 := by omega
  have hlow : n % 16 < 16 := Nat.mod_lt _ (by decide)
  rw [Text.bytes_cons_of_lt (hexDigit_lt hhigh), Text.bytes_cons_of_lt (hexDigit_lt hlow),
    List.cons_append, List.cons_append, readHex, hexValue?_hexDigit hhigh, hexValue?_hexDigit hlow]
  change Except.ok ((0 + n / 16) * 16 + n % 16, text) = _
  rw [Nat.zero_add, Nat.div_add_mod']

/-- Control characters that have no letter are written with two hexadecimal digits. -/
theorem readEscape_control {c : Char} (h : c.toNat < 32) (text : List UInt8) :
    readEscape (bytes ['u', '0', '0', Text.hexDigit (c.toNat / 16),
      Text.hexDigit (c.toNat % 16)] ++ text) = .ok (c, text) := by
  change (readHex (0x30 :: 0x30 :: (bytes [_, _] ++ text)) >>= _) = _
  rw [readHex_hexDigit (Nat.lt_trans h (by decide))]
  change (if 0xDC00 ≤ c.toNat ∧ c.toNat ≤ 0xDFFF then _ else _) = _
  rw [if_neg (by omega), if_neg (by omega), Char.ofNat_toNat]
  rfl

/-- A character is written as an escape that is read back, or as it is. -/
theorem writeChar_cases (c : Char) :
    (∃ code, bytes (writeChar c) = 0x5C :: code ∧
      ∀ text, readEscape (code ++ text) = .ok (c, text)) ∨
    writeChar c = [c] ∧ c ≠ '"' ∧ c ≠ '\\' ∧ 32 ≤ c.toNat := by
  unfold writeChar
  split
  next hc => subst hc; exact .inl ⟨_, rfl, fun text => rfl⟩
  next hquote =>
  split
  next hc => subst hc; exact .inl ⟨_, rfl, fun text => rfl⟩
  next hbackslash =>
  split
  next hc => subst hc; exact .inl ⟨_, rfl, fun text => rfl⟩
  next =>
  split
  next hc => subst hc; exact .inl ⟨_, rfl, fun text => rfl⟩
  next =>
  split
  next hc => subst hc; exact .inl ⟨_, rfl, fun text => rfl⟩
  next =>
  split
  next hc => subst hc; exact .inl ⟨_, rfl, fun text => rfl⟩
  next =>
  split
  next hc => subst hc; exact .inl ⟨_, rfl, fun text => rfl⟩
  next =>
  split
  next hcontrol => exact .inl ⟨_, rfl, readEscape_control hcontrol⟩
  next hcontrol => exact .inr ⟨rfl, hquote, hbackslash, Nat.not_lt.mp hcontrol⟩

theorem ReadsString.writeChar {text content rest : List UInt8}
    (h : ReadsString text content rest) (c : Char) :
    ReadsString (bytes (writeChar c) ++ text) (String.utf8EncodeChar c ++ content) rest := by
  rcases writeChar_cases c with ⟨code, hwritten, hcode⟩ | ⟨hwritten, hquote, hbackslash, hcontrol⟩
  · rw [hwritten]
    exact h.escape (hcode text)
  · rw [hwritten, Text.bytes_cons, Text.bytes_nil, List.append_nil]
    rcases Nat.lt_or_ge c.toNat 128 with hlow | hhigh
    · have hcode := Text.toNat_ofNat_of_lt hlow
      rw [Text.utf8EncodeChar_of_lt hlow]
      refine h.plain ?_ ?_ ?_
      · rw [UInt8.lt_iff_toNat_lt, hcode]
        exact Nat.not_lt.mpr hcontrol
      · intro heq
        exact hquote (Char.toNat_inj.mp (hcode.symm.trans (congrArg UInt8.toNat heq)))
      · intro heq
        exact hbackslash (Char.toNat_inj.mp (hcode.symm.trans (congrArg UInt8.toNat heq)))
    · exact h.plains fun byte => Text.le_of_mem_utf8EncodeChar hhigh

theorem readsString_flatMap (text : List Char) (rest : List UInt8) :
    ReadsString (bytes (text.flatMap writeChar) ++ 0x22 :: rest) (bytes text) rest := by
  induction text with
  | nil => exact readsString_quote rest
  | cons c text ih =>
      rw [List.flatMap_cons, Text.bytes_append, List.append_assoc, Text.bytes_cons]
      exact ih.writeChar c

/-- A string is read back from behind its opening quote. -/
theorem readString_flatMap (text : String) {limit : Nat} {rest : List UInt8}
    (h : (bytes (text.toList.flatMap writeChar) ++ 0x22 :: rest).length ≤ limit) :
    readString limit (bytes (text.toList.flatMap writeChar) ++ 0x22 :: rest) =
      .ok (text, rest) := by
  have hbytes := readsString_flatMap text.toList rest limit h
  simp only [readString, hbytes, bind, Except.bind, Text.fromUTF8?_bytes]
  rfl

end Suppression.Json
