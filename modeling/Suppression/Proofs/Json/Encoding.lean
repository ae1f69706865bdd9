import Suppression.Json.Reader
import Suppression.Proofs.Fallible
import Suppression.Proofs.Text.Bytes

/-!
# Documents are UTF-8

Every reader takes away bytes that are UTF-8 by themselves. Outside of strings these are ASCII.
In a string the bytes that stand for themselves may lie in the middle of a character, so it is
only when the string is complete that they are known to be text. No escape can stand there, for
what it stands for begins a character.
-/

namespace Suppression.Text

/-- The bytes are those of a text. -/
def IsUtf8 (text : List UInt8) : Prop := ∃ chars, bytes chars = text

theorem isUtf8_nil : IsUtf8 [] := ⟨[], rfl⟩

theorem IsUtf8.append {front back : List UInt8} (hfront : IsUtf8 front) (hback : IsUtf8 back) :
    IsUtf8 (front ++ back) := by
  obtain ⟨left, rfl⟩ := hfront
  obtain ⟨right, rfl⟩ := hback
  exact ⟨left ++ right, bytes_append left right⟩

theorem isUtf8_utf8EncodeChar (c : Char) : IsUtf8 (String.utf8EncodeChar c) :=
  ⟨[c], List.append_nil _⟩

/-- Every byte is the code of a character. -/
theorem toNat_ofNat_toNat (byte : UInt8) : (Char.ofNat byte.toNat).toNat = byte.toNat := by
  have hvalid : byte.toNat.isValidChar := Or.inl (Nat.lt_trans byte.toNat_lt (by decide))
  rw [Char.ofNat, dif_pos hvalid]
  rfl

theorem isUtf8_singleton {byte : UInt8} (h : byte < 0x80) : IsUtf8 [byte] := by
  have hchar : (Char.ofNat byte.toNat).toNat < 128 := by
    rw [toNat_ofNat_toNat]
    exact UInt8.lt_iff_toNat_lt.mp h
  refine ⟨[Char.ofNat byte.toNat], ?_⟩
  rw [bytes_cons_of_lt hchar, toNat_ofNat_toNat, UInt8.ofNat_toNat, bytes_nil]

/-- What stands behind a character is text if it is with the character. -/
theorem IsUtf8.of_utf8EncodeChar_append {c : Char} {back : List UInt8}
    (h : IsUtf8 (String.utf8EncodeChar c ++ back)) : IsUtf8 back := by
  obtain ⟨chars, h⟩ := h
  cases chars with
  | nil => exact absurd (List.append_eq_nil_iff.mp h.symm).1 String.utf8EncodeChar_ne_nil
  | cons d chars =>
      have hdecoded := congrArg (decodeFrom none) h
      rw [bytes_cons, decodeFrom_utf8EncodeChar, decodeFrom_utf8EncodeChar] at hdecoded
      obtain ⟨rfl, -⟩ := List.cons.inj hdecoded
      exact ⟨chars, List.append_cancel_left h⟩

/-- A byte that begins a character stands behind no other byte of one. -/
theorem eq_nil_of_utf8EncodeChar_eq {c d : Char} {byte : UInt8} {front inner others : List UInt8}
    (hbegins : String.utf8EncodeChar c = byte :: others)
    (hinside : String.utf8EncodeChar d = front ++ byte :: inner) : front = [] := by
  have hlead : byte.IsUTF8FirstByte := by
    have hfirst := (@UInt8.isUTF8FirstByte_getElem_utf8EncodeChar c 0 (by simp [hbegins])).mpr rfl
    simpa [hbegins] using hfirst
  apply List.eq_nil_of_length_eq_zero
  apply (@UInt8.isUTF8FirstByte_getElem_utf8EncodeChar d front.length (by simp [hinside])).mp
  simpa [hinside] using hlead

/-- A character stands between two texts, wherever it stands in one. -/
theorem IsUtf8.split {front back : List UInt8} {c : Char}
    (h : IsUtf8 (front ++ (String.utf8EncodeChar c ++ back))) : IsUtf8 front ∧ IsUtf8 back := by
  obtain ⟨chars, h⟩ := h
  induction chars generalizing front with
  | nil =>
      have hbehind := (List.append_eq_nil_iff.mp h.symm).2
      exact absurd (List.append_eq_nil_iff.mp hbehind).1 String.utf8EncodeChar_ne_nil
  | cons d chars ih =>
      have hsplit := h
      rw [bytes_cons, List.append_eq_append_iff] at hsplit
      rcases hsplit with ⟨behind, rfl, hbehind⟩ | ⟨inner, hinner, hrest⟩
      · obtain ⟨hfirst, hsecond⟩ := ih hbehind
        exact ⟨(isUtf8_utf8EncodeChar d).append hfirst, hsecond⟩
      · cases inner with
        | nil =>
            rw [List.append_nil] at hinner
            exact ⟨hinner ▸ isUtf8_utf8EncodeChar d, of_utf8EncodeChar_append ⟨chars, hrest.symm⟩⟩
        | cons byte inner =>
            obtain ⟨lead, others, hlead⟩ :=
              List.exists_cons_of_ne_nil (String.utf8EncodeChar_ne_nil (c := c))
            have hbyte : lead = byte := by
              rw [hlead] at hrest
              exact (List.cons.inj hrest).1
            have hfront := eq_nil_of_utf8EncodeChar_eq (hbyte ▸ hlead) hinner
            rw [hfront, List.nil_append] at h
            exact ⟨hfront ▸ isUtf8_nil, of_utf8EncodeChar_append ⟨_, h⟩⟩

end Suppression.Text

namespace Suppression.Json

open Text (IsUtf8 isUtf8_nil isUtf8_singleton)

/-! ## What readers take away -/

/-- The rest stands behind UTF-8. -/
def Takes (bytes rest : List UInt8) : Prop := ∃ front, IsUtf8 front ∧ bytes = front ++ rest

theorem Takes.trans {bytes between rest : List UInt8} (h : Takes bytes between)
    (hrest : Takes between rest) : Takes bytes rest := by
  obtain ⟨front, hfront, rfl⟩ := h
  obtain ⟨middle, hmiddle, rfl⟩ := hrest
  exact ⟨front ++ middle, hfront.append hmiddle, (List.append_assoc ..).symm⟩

theorem Takes.cons {byte : UInt8} {bytes rest : List UInt8} (h : Takes bytes rest)
    (hbyte : byte < 0x80) : Takes (byte :: bytes) rest :=
  Takes.trans ⟨[byte], isUtf8_singleton hbyte, rfl⟩ h

section Containers

variable {limit : Nat} {readItem : List UInt8 → Except Stop (Value × List UInt8)}
  (hread : ∀ bytes item rest, readItem bytes = .ok (item, rest) → Takes bytes rest)

include hread

end Containers

end Suppression.Json
