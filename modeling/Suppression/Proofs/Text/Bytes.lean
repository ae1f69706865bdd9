import Suppression.Text.Utf8

/-!
# Bytes of texts

A character below 128 is one byte, its code. All bytes of any other character are 128 or
more, so they cannot be taken for such a character.
-/

namespace Suppression.Text

/-- The bytes of characters. -/
def bytes (text : List Char) : List UInt8 := text.flatMap String.utf8EncodeChar

@[simp]
theorem bytes_nil : bytes [] = [] := rfl

theorem bytes_cons (c : Char) (text : List Char) :
    bytes (c :: text) = String.utf8EncodeChar c ++ bytes text := rfl

@[simp]
theorem bytes_append (left right : List Char) : bytes (left ++ right) = bytes left ++ bytes right :=
  List.flatMap_append

theorem encode_eq_bytes (text : String) : encode text = bytes text.toList := by
  rw [bytes, ← encode_ofList, String.ofList_toList]

theorem toNat_ofNat_of_lt {c : Char} (h : c.toNat < 128) :
    (UInt8.ofNat c.toNat).toNat = c.toNat := by
  rw [UInt8.toNat_ofNat']
  exact Nat.mod_eq_of_lt (Nat.lt_trans h (by decide))

theorem utf8EncodeChar_of_lt {c : Char} (h : c.toNat < 128) :
    String.utf8EncodeChar c = [UInt8.ofNat c.toNat] := by
  have hval : c.val.toNat ≤ 127 := Nat.le_of_lt_succ h
  rw [String.utf8EncodeChar, if_pos hval]
  rfl

theorem bytes_cons_of_lt {c : Char} (h : c.toNat < 128) (text : List Char) :
    bytes (c :: text) = UInt8.ofNat c.toNat :: bytes text := by
  rw [bytes_cons, utf8EncodeChar_of_lt h, List.singleton_append]

theorem le_of_mem_utf8EncodeChar {c : Char} (h : 128 ≤ c.toNat) {byte : UInt8}
    (hbyte : byte ∈ String.utf8EncodeChar c) : 128 ≤ byte.toNat := by
  have hval : ¬ c.val.toNat ≤ 127 := Nat.not_le.mpr h
  rw [String.utf8EncodeChar, if_neg hval] at hbyte
  split at hbyte
  next =>
    simp only [List.mem_cons, List.not_mem_nil, or_false] at hbyte
    rcases hbyte with rfl | rfl <;> rw [UInt8.toNat_ofNat'] <;> omega
  next =>
  split at hbyte
  next =>
    simp only [List.mem_cons, List.not_mem_nil, or_false] at hbyte
    rcases hbyte with rfl | rfl | rfl <;> rw [UInt8.toNat_ofNat'] <;> omega
  next =>
    simp only [List.mem_cons, List.not_mem_nil, or_false] at hbyte
    rcases hbyte with rfl | rfl | rfl | rfl <;> rw [UInt8.toNat_ofNat'] <;> omega

theorem fromUTF8?_bytes (text : String) :
    String.fromUTF8? ⟨(bytes text.toList).toArray⟩ = some text := by
  have hbytes : (⟨(bytes text.toList).toArray⟩ : ByteArray) = text.toByteArray := by
    rw [← encode_eq_bytes, encode]
    rfl
  rw [hbytes, String.fromUTF8?, dif_pos text.isValidUTF8]
  rfl

end Suppression.Text
