/-!
# Text from bytes

Bytes are decoded as UTF-8. Where they are no UTF-8, the longest beginning of a
character, or else a single byte, stands for one replacement character.
-/

namespace Suppression.Text

/-- Shown for bytes that are no text. -/
def replacement : Char := '\uFFFD'

/-- A character whose first bytes have been read: its bits so far, and the bounds for
each byte still to come. -/
structure Pending where
  /-- The bits of the bytes read. -/
  bits : Nat
  /-- The bounds of the next byte. -/
  next : UInt8 × UInt8
  /-- How many bytes come behind the next one. -/
  behind : Nat
  deriving DecidableEq

/-- What a byte that begins a character says about it: its character if it is complete,
or what is still to come. -/
inductive Lead where
  | complete (c : Char)
  | pending (rest : Pending)
  /-- No character begins with this byte. -/
  | invalid
  deriving DecidableEq

/-- The meaning of a byte at the beginning of a character. -/
def Lead.of (byte : UInt8) : Lead :=
  let bits := byte.toNat
  if bits < 0x80 then .complete (Char.ofNat bits)
  else if bits < 0xC2 then .invalid
  else if bits < 0xE0 then .pending ⟨bits - 0xC0, (0x80, 0xBF), 0⟩
  else if bits = 0xE0 then .pending ⟨0, (0xA0, 0xBF), 1⟩
  else if bits = 0xED then .pending ⟨0xD, (0x80, 0x9F), 1⟩
  else if bits < 0xF0 then .pending ⟨bits - 0xE0, (0x80, 0xBF), 1⟩
  else if bits = 0xF0 then .pending ⟨0, (0x90, 0xBF), 2⟩
  else if bits < 0xF4 then .pending ⟨bits - 0xF0, (0x80, 0xBF), 2⟩
  else if bits = 0xF4 then .pending ⟨4, (0x80, 0x8F), 2⟩
  else .invalid

/-- Decode bytes, in the middle of a character or between two of them. -/
def decodeFrom : Option Pending → List UInt8 → List Char
  | none, [] => []
  | some _, [] => [replacement]
  | none, byte :: bytes => begin byte bytes
  | some pending, byte :: bytes =>
      if pending.next.1 ≤ byte ∧ byte ≤ pending.next.2 then
        let bits := pending.bits * 64 + byte.toNat % 64
        match pending.behind with
        | 0 => Char.ofNat bits :: decodeFrom none bytes
        | behind + 1 => decodeFrom (some ⟨bits, (0x80, 0xBF), behind⟩) bytes
      else replacement :: begin byte bytes
where
  /-- Begin a character. -/
  begin (byte : UInt8) (bytes : List UInt8) : List Char :=
    match Lead.of byte with
    | .complete c => c :: decodeFrom none bytes
    | .pending rest => decodeFrom (some rest) bytes
    | .invalid => replacement :: decodeFrom none bytes

/-- The text that bytes stand for. -/
def decode (bytes : List UInt8) : String := String.ofList (decodeFrom none bytes)

/-- Count the bytes in front of the first one that does not continue a text. `whole` bytes
of complete characters and `part` bytes of the pending one have been counted so far. -/
def soundFrom (whole part : Nat) : Option Pending → List UInt8 → Nat
  | _, [] => whole
  | none, byte :: bytes =>
      match Lead.of byte with
      | .complete _ => soundFrom (whole + 1) 0 none bytes
      | .pending rest => soundFrom whole 1 (some rest) bytes
      | .invalid => whole
  | some pending, byte :: bytes =>
      if pending.next.1 ≤ byte ∧ byte ≤ pending.next.2 then
        match pending.behind with
        | 0 => soundFrom (whole + part + 1) 0 none bytes
        | behind + 1 => soundFrom whole (part + 1) (some ⟨0, (0x80, 0xBF), behind⟩) bytes
      else whole

/-- The number of bytes that are a text, up to the first that is not. -/
def soundLength (bytes : List UInt8) : Nat := soundFrom 0 0 none bytes

/-- The bytes of a text. -/
def encode (text : String) : List UInt8 := text.toUTF8.data.toList

theorem encode_ofList (text : List Char) :
    encode (String.ofList text) = text.flatMap String.utf8EncodeChar := by
  rw [encode, String.toUTF8_eq_toByteArray, String.toByteArray_ofList, List.utf8Encode,
    List.data_toByteArray, List.toList_toArray]

theorem encode_append (left right : String) :
    encode (left ++ right) = encode left ++ encode right := by
  rw [← String.ofList_toList (s := left), ← String.ofList_toList (s := right),
    ← String.ofList_append, encode_ofList, encode_ofList, encode_ofList, List.flatMap_append]

theorem toNat_follower {x : Nat} (hx : x < 64) : (UInt8.ofNat (x + 128)).toNat = x + 128 := by
  rw [UInt8.toNat_ofNat']
  exact Nat.mod_eq_of_lt (by omega)

/-- The last byte of a character completes it. -/
theorem decodeFrom_last {bits x : Nat} {low high : UInt8} (hx : x < 64)
    (hlow : low.toNat ≤ x + 128) (hhigh : x + 128 ≤ high.toNat) (bytes : List UInt8) :
    decodeFrom (some ⟨bits, (low, high), 0⟩) (UInt8.ofNat (x + 128) :: bytes) =
      Char.ofNat (bits * 64 + x) :: decodeFrom none bytes := by
  have hvalue := toNat_follower hx
  have hbounds : low ≤ UInt8.ofNat (x + 128) ∧ UInt8.ofNat (x + 128) ≤ high := by
    rw [UInt8.le_iff_toNat_le, UInt8.le_iff_toNat_le, hvalue]
    exact ⟨hlow, hhigh⟩
  have hbits : (x + 128) % 64 = x := by omega
  rw [decodeFrom, if_pos hbounds, hvalue, hbits]

/-- A byte in the middle of a character adds its bits. -/
theorem decodeFrom_middle {bits x behind : Nat} {low high : UInt8} (hx : x < 64)
    (hlow : low.toNat ≤ x + 128) (hhigh : x + 128 ≤ high.toNat) (bytes : List UInt8) :
    decodeFrom (some ⟨bits, (low, high), behind + 1⟩) (UInt8.ofNat (x + 128) :: bytes) =
      decodeFrom (some ⟨bits * 64 + x, (0x80, 0xBF), behind⟩) bytes := by
  have hvalue := toNat_follower hx
  have hbounds : low ≤ UInt8.ofNat (x + 128) ∧ UInt8.ofNat (x + 128) ≤ high := by
    rw [UInt8.le_iff_toNat_le, UInt8.le_iff_toNat_le, hvalue]
    exact ⟨hlow, hhigh⟩
  have hbits : (x + 128) % 64 = x := by omega
  rw [decodeFrom, if_pos hbounds, hvalue, hbits]

theorem Lead.of_three {byte : UInt8} {first : Nat} (hbyte : byte.toNat = first + 224)
    (hfirst : first < 16) : Lead.of byte =
      .pending ⟨first,
        (if first = 0 then 0xA0 else 0x80, if first = 13 then 0x9F else 0xBF), 1⟩ := by
  have hall : ∀ first < 16, Lead.of (UInt8.ofNat (first + 224)) =
      .pending ⟨first,
        (if first = 0 then 0xA0 else 0x80, if first = 13 then 0x9F else 0xBF), 1⟩ := by decide
  have hself : UInt8.ofNat (first + 224) = byte := by
    rw [← hbyte, UInt8.ofNat_toNat]
  rw [← hself]
  exact hall first hfirst

theorem Lead.of_four {byte : UInt8} {first : Nat} (hbyte : byte.toNat = first + 240)
    (hfirst : first < 5) : Lead.of byte =
      .pending ⟨first,
        (if first = 0 then 0x90 else 0x80, if first = 4 then 0x8F else 0xBF), 2⟩ := by
  have hall : ∀ first < 5, Lead.of (UInt8.ofNat (first + 240)) =
      .pending ⟨first,
        (if first = 0 then 0x90 else 0x80, if first = 4 then 0x8F else 0xBF), 2⟩ := by decide
  have hself : UInt8.ofNat (first + 240) = byte := by
    rw [← hbyte, UInt8.ofNat_toNat]
  rw [← hself]
  exact hall first hfirst

/-- The bytes of a character are decoded to it. -/
theorem decodeFrom_utf8EncodeChar (c : Char) (bytes : List UInt8) :
    decodeFrom none (String.utf8EncodeChar c ++ bytes) = c :: decodeFrom none bytes := by
  have hvalid : c.val.toNat < 0xD800 ∨ 0xDFFF < c.val.toNat ∧ c.val.toNat < 0x110000 := c.valid
  have hself : Char.ofNat c.val.toNat = c := Char.ofNat_toNat c
  unfold String.utf8EncodeChar
  generalize c.val.toNat = v at hvalid hself
  dsimp only
  split
  next hone =>
    have hbyte : (UInt8.ofNat v).toNat = v := by
      rw [UInt8.toNat_ofNat']
      exact Nat.mod_eq_of_lt (by omega)
    rw [List.singleton_append, decodeFrom, decodeFrom.begin, Lead.of, hbyte, if_pos (by omega),
      hself]
  next hone =>
  split
  next htwo =>
    have hbyte : (UInt8.ofNat (v / 64 % 32 + 192)).toNat = v / 64 + 192 := by
      rw [UInt8.toNat_ofNat']
      omega
    rw [List.cons_append, List.singleton_append, decodeFrom, decodeFrom.begin, Lead.of, hbyte,
      if_neg (by omega), if_neg (by omega), if_pos (by omega)]
    dsimp only
    rw [decodeFrom_last (Nat.mod_lt _ (by decide)) (Nat.le_add_left ..) (by
      have hlast : v % 64 < 64 := Nat.mod_lt _ (by decide)
      change v % 64 + 128 ≤ 191
      omega)]
    have hsum : (v / 64 + 192 - 192) * 64 + v % 64 = v := by omega
    rw [hsum, hself]
  next htwo =>
  split
  next hthree =>
    have hbyte : (UInt8.ofNat (v / 4096 % 16 + 224)).toNat = v / 4096 + 224 := by
      rw [UInt8.toNat_ofNat']
      omega
    have hmiddle : v / 64 % 64 < 64 := Nat.mod_lt _ (by decide)
    have hlast : v % 64 < 64 := Nat.mod_lt _ (by decide)
    have hsum : (v / 4096 * 64 + v / 64 % 64) * 64 + v % 64 = v := by omega
    rw [List.cons_append, List.cons_append, List.singleton_append, decodeFrom, decodeFrom.begin,
      Lead.of_three hbyte (by omega)]
    dsimp only
    rw [decodeFrom_middle hmiddle, decodeFrom_last hlast (Nat.le_add_left ..), hsum, hself]
    · change v % 64 + 128 ≤ 191
      omega
    · split
      · change 160 ≤ v / 64 % 64 + 128
        omega
      · exact Nat.le_add_left ..
    · split
      · change v / 64 % 64 + 128 ≤ 159
        omega
      · change v / 64 % 64 + 128 ≤ 191
        omega
  next hthree =>
    have hbyte : (UInt8.ofNat (v / 262144 % 8 + 240)).toNat = v / 262144 + 240 := by
      rw [UInt8.toNat_ofNat']
      omega
    have hsecond : v / 4096 % 64 < 64 := Nat.mod_lt _ (by decide)
    have hmiddle : v / 64 % 64 < 64 := Nat.mod_lt _ (by decide)
    have hlast : v % 64 < 64 := Nat.mod_lt _ (by decide)
    have hsum :
        ((v / 262144 * 64 + v / 4096 % 64) * 64 + v / 64 % 64) * 64 + v % 64 = v := by omega
    rw [List.cons_append, List.cons_append, List.cons_append, List.singleton_append, decodeFrom,
      decodeFrom.begin, Lead.of_four hbyte (by omega)]
    dsimp only
    rw [decodeFrom_middle hsecond, decodeFrom_middle hmiddle (Nat.le_add_left ..),
      decodeFrom_last hlast (Nat.le_add_left ..), hsum, hself]
    · change v % 64 + 128 ≤ 191
      omega
    · change v / 64 % 64 + 128 ≤ 191
      omega
    · split
      · change 144 ≤ v / 4096 % 64 + 128
        omega
      · exact Nat.le_add_left ..
    · split
      · change v / 4096 % 64 + 128 ≤ 143
        omega
      · change v / 4096 % 64 + 128 ≤ 191
        omega

/-- Decoding gives back a text from its bytes. -/
theorem decode_encode (text : String) : decode (encode text) = text := by
  have hchars (chars : List Char) :
      decodeFrom none (chars.flatMap String.utf8EncodeChar) = chars := by
    induction chars with
    | nil => rw [List.flatMap_nil, decodeFrom]
    | cons c chars ih => rw [List.flatMap_cons, decodeFrom_utf8EncodeChar, ih]
  rw [← String.ofList_toList (s := text), encode_ofList, decode, hchars]

end Suppression.Text
