import Mathlib.Data.List.DropRight
import Suppression.Proofs.Json.Legible
import Suppression.Proofs.Json.Strings

/-!
# Reading written documents

A document that could be read is read back from every layout that puts only blanks
between its items, with its keys, strings and nesting. Its numbers have to be whole.
-/

namespace Suppression.Json

open Text (bytes)

/-! ## Blanks -/

/-- A character that may stand between the items of a document. -/
def IsBlank (c : Char) : Prop := c ∈ [' ', '\n', '\t', '\r']

instance : DecidablePred IsBlank := fun _ => List.instDecidableMemOfLawfulBEq _ _

/-- No blank, and no end of an array. -/
def Opens (byte : UInt8) : Prop := byte ∉ [0x20, 0x0A, 0x09, 0x0D, 0x5D]

instance : DecidablePred Opens := fun _ => instDecidableNot

theorem skipBlanks_cons {byte : UInt8} (h : Opens byte) (rest : List UInt8) :
    skipBlanks (byte :: rest) = byte :: rest := by
  have hblank : (byte = 0x20 || byte = 0x0A || byte = 0x09 || byte = 0x0D) = false := by
    simp only [Opens, List.mem_cons, not_or] at h
    simp [h]
  exact List.dropWhile_cons_of_neg (Bool.not_eq_true _ ▸ hblank)

theorem skipBlanks_append {blanks : List Char} (h : ∀ c ∈ blanks, IsBlank c) (rest : List UInt8) :
    skipBlanks (bytes blanks ++ rest) = skipBlanks rest := by
  induction blanks with
  | nil => rfl
  | cons c blanks ih =>
      obtain ⟨hc, hblanks⟩ := List.forall_mem_cons.mp h
      rw [← ih hblanks]
      simp only [IsBlank, List.mem_cons, List.not_mem_nil, or_false] at hc
      rcases hc with rfl | rfl | rfl | rfl <;> rfl

theorem endsNumber_blanks {blanks : List Char} (h : ∀ c ∈ blanks, IsBlank c) {rest : List UInt8}
    (hrest : EndsNumber rest) : EndsNumber (bytes blanks ++ rest) := by
  cases blanks with
  | nil => exact hrest
  | cons c blanks =>
      have hc := h c List.mem_cons_self
      simp only [IsBlank, List.mem_cons, List.not_mem_nil, or_false] at hc
      rcases hc with rfl | rfl | rfl | rfl <;> rintro byte ⟨⟩ <;> decide

theorem endsNumber_cons (byte : UInt8)
    (h : digit? byte = none ∧ byte ≠ 0x2E ∧ byte ≠ 0x65 ∧ byte ≠ 0x45) (rest : List UInt8) :
    EndsNumber (byte :: rest) := by
  rintro _ ⟨⟩
  exact h

namespace Layout

/-- Only blanks stand between the items, and a colon behind a key. -/
structure IsBlank (layout : Layout) : Prop where
  lineStart : ∀ level, ∀ c ∈ layout.lineStart level, Json.IsBlank c
  colon : ∃ blanks, layout.colon = ':' :: blanks ∧ ∀ c ∈ blanks, Json.IsBlank c

theorem isBlank_indented (width : Nat) : (indented width).IsBlank where
  lineStart level := by
    refine List.forall_mem_cons.mpr ⟨by decide, fun c hc => ?_⟩
    rw [List.eq_of_mem_replicate hc]
    decide
  colon := ⟨[' '], rfl, List.forall_mem_singleton.mpr (by decide)⟩

end Layout

/-! ## Arrays and objects -/

/-- A written value is read back, whatever stands behind it, if that fits into the limit. -/
structure ReadsBack (layout : Layout) (limit : Nat)
    (readItem : List UInt8 → Except Stop (Value × List UInt8)) (level : Nat) (value : Value) :
    Prop where
  opens : ∃ byte text, bytes (layout.write level value) = byte :: text ∧ Opens byte
  read : ∀ rest, EndsNumber rest → (bytes (layout.write level value) ++ rest).length ≤ limit →
    readItem (bytes (layout.write level value) ++ rest) = .ok (value, rest)

section Containers

variable {layout : Layout} {limit level : Nat}
  {readItem : List UInt8 → Except Stop (Value × List UInt8)}

/-- It is read back behind blanks. -/
theorem ReadsBack.exists_read {value : Value} (h : ReadsBack layout limit readItem level value)
    {blanks : List Char} (hblanks : ∀ c ∈ blanks, IsBlank c) {rest : List UInt8}
    (hrest : EndsNumber rest)
    (hlimit : (bytes blanks ++ (bytes (layout.write level value) ++ rest)).length ≤ limit) :
    ∃ byte text, Opens byte ∧
      skipBlanks (bytes blanks ++ (bytes (layout.write level value) ++ rest)) = byte :: text ∧
      readItem (byte :: text) = .ok (value, rest) := by
  obtain ⟨byte, text, htext, hopens⟩ := h.opens
  have hread := h.read rest hrest (Nat.le_trans (List.suffix_append _ _).length_le hlimit)
  rw [htext, List.cons_append] at hread ⊢
  exact ⟨byte, text ++ rest, hopens,
    (skipBlanks_append hblanks _).trans (skipBlanks_cons hopens _), hread⟩

theorem readMoreItems_close {blanks : List Char} (hblanks : ∀ c ∈ blanks, IsBlank c) (fuel : Nat)
    (rest : List UInt8) :
    readMoreItems readItem (fuel + 1) (bytes blanks ++ 0x5D :: rest) = .ok ([], rest) := by
  rw [readMoreItems, skipBlanks_append hblanks]
  rfl

theorem readMoreItems_cons {fuel : Nat} {bytes text : List UInt8} {byte : UInt8}
    (hopens : Opens byte) (hbytes : skipBlanks bytes = byte :: text) :
    readMoreItems readItem (fuel + 1) (0x2C :: bytes) = do
      let (item, rest) ← readItem (byte :: text)
      let (items, rest) ← readMoreItems readItem fuel rest
      return (item :: items, rest) := by
  have hcomma : skipBlanks (0x2C :: bytes) = 0x2C :: bytes := skipBlanks_cons (by decide) _
  rw [readMoreItems, hcomma]
  split
  next heq => cases heq
  next heq => cases heq
  next heq =>
    cases heq
    rw [hbytes]
    split
    next heq => cases heq
    next heq =>
      cases heq
      exact absurd hopens (by decide)
    next => rfl
  next hcomma heq => exact absurd (List.cons.inj heq).1.symm hcomma

theorem bytes_writeItems_cons (item : Value) (items : List Value) :
    bytes (layout.writeItems level (item :: items)) =
      0x2C :: (bytes (layout.lineStart level) ++ (bytes (layout.write level item) ++
        bytes (layout.writeItems level items))) := by
  rw [Layout.writeItems, Text.bytes_append, Text.bytes_append, List.append_assoc]
  rfl

variable (layout level) in
theorem endsNumber_writeItems (items : List Value) {blanks : List Char}
    (hblanks : ∀ c ∈ blanks, IsBlank c) (rest : List UInt8) :
    EndsNumber (bytes (layout.writeItems level items) ++ (bytes blanks ++ 0x5D :: rest)) := by
  cases items with
  | nil => exact endsNumber_blanks hblanks (endsNumber_cons _ (by decide) rest)
  | cons item items =>
      rw [bytes_writeItems_cons]
      exact endsNumber_cons _ (by decide) _

theorem readMoreItems_writeItems (hlayout : layout.IsBlank) {items : List Value}
    (hitems : ∀ item ∈ items, ReadsBack layout limit readItem level item) {blanks : List Char}
    (hblanks : ∀ c ∈ blanks, IsBlank c) {fuel : Nat} (hlimit : fuel ≤ limit) {rest : List UInt8}
    (hfuel : (bytes (layout.writeItems level items) ++ (bytes blanks ++ 0x5D :: rest)).length ≤
      fuel) :
    readMoreItems readItem fuel
      (bytes (layout.writeItems level items) ++ (bytes blanks ++ 0x5D :: rest)) =
        .ok (items, rest) := by
  induction items generalizing fuel with
  | nil =>
      cases fuel with
      | zero => simp at hfuel
      | succ fuel => exact readMoreItems_close hblanks fuel rest
  | cons item items ih =>
      obtain ⟨hitem, hitems⟩ := List.forall_mem_cons.mp hitems
      have hends := endsNumber_writeItems layout level items hblanks rest
      rw [bytes_writeItems_cons, List.cons_append, List.append_assoc, List.append_assoc] at hfuel ⊢
      cases fuel with
      | zero => cases hfuel
      | succ fuel =>
          -- The comma makes up for the step of the limit.
          have hroom := Nat.le_of_succ_le_succ hfuel
          obtain ⟨byte, text, hopens, hskip, hread⟩ := hitem.exists_read (hlayout.lineStart level)
            hends (Nat.le_trans hroom (Nat.le_of_succ_le hlimit))
          rw [List.length_append, List.length_append] at hroom
          rw [readMoreItems_cons hopens hskip, hread]
          change (readMoreItems readItem fuel _ >>= _) = _
          rw [ih hitems (Nat.le_of_succ_le hlimit) (by omega)]
          rfl

theorem readArray_of_opens {bytes text : List UInt8} {byte : UInt8} (hopens : Opens byte)
    (hbytes : skipBlanks bytes = byte :: text) :
    readArray limit readItem bytes = do
      let (item, rest) ← readItem (byte :: text)
      let (items, rest) ← readMoreItems readItem limit rest
      return (.array (item :: items), rest) := by
  rw [readArray, hbytes]
  split
  next heq => cases heq
  next heq =>
    cases heq
    exact absurd hopens (by decide)
  next => rfl

variable (layout level) in
theorem bytes_write_array_cons (item : Value) (items : List Value) (rest : List UInt8) :
    bytes (layout.write level (.array (item :: items))) ++ rest =
      0x5B :: (bytes (layout.lineStart (level + 1)) ++ (bytes (layout.write (level + 1) item) ++
        (bytes (layout.writeItems (level + 1) items) ++
          (bytes (layout.lineStart level) ++ 0x5D :: rest)))) := by
  simp only [Layout.write, Text.bytes_append, List.append_assoc]
  rfl

theorem readArray_write (hlayout : layout.IsBlank) {item : Value} {items : List Value}
    (hitems : ∀ other ∈ item :: items, ReadsBack layout limit readItem (level + 1) other)
    {behind rest : List UInt8}
    (htext : bytes (layout.write level (.array (item :: items))) ++ rest = 0x5B :: behind)
    (hlimit : behind.length ≤ limit) :
    readArray limit readItem behind = .ok (.array (item :: items), rest) := by
  obtain ⟨hitem, hitems⟩ := List.forall_mem_cons.mp hitems
  have hends := endsNumber_writeItems layout (level + 1) items (hlayout.lineStart level) rest
  rw [bytes_write_array_cons] at htext
  cases htext
  obtain ⟨byte, text, hopens, hskip, hread⟩ :=
    hitem.exists_read (hlayout.lineStart (level + 1)) hends hlimit
  rw [List.length_append, List.length_append] at hlimit
  rw [readArray_of_opens hopens hskip, hread]
  change (readMoreItems readItem limit _ >>= _) = _
  rw [readMoreItems_writeItems hlayout hitems (hlayout.lineStart level) (Nat.le_refl limit)
    (by omega)]
  rfl

/-- A written field and what stands behind it, from behind the opening quote of its key. -/
def fieldBytes (layout : Layout) (level : Nat) (field : String × Value) (rest : List UInt8) :
    List UInt8 :=
  bytes (field.1.toList.flatMap writeChar) ++ 0x22 ::
    (bytes layout.colon ++ (bytes (layout.write level field.2) ++ rest))

theorem bytes_writeFields_cons (field : String × Value) (fields : List (String × Value))
    (rest : List UInt8) :
    bytes (layout.writeFields level (field :: fields)) ++ rest =
      0x2C :: (bytes (layout.lineStart level) ++ 0x22 ::
        fieldBytes layout level field (bytes (layout.writeFields level fields) ++ rest)) := by
  simp only [Layout.writeFields, writeString, fieldBytes, Text.bytes_append, List.append_assoc]
  rfl

variable (layout level) in
theorem bytes_write_object_cons (field : String × Value) (fields : List (String × Value))
    (rest : List UInt8) :
    bytes (layout.write level (.object (field :: fields))) ++ rest =
      0x7B :: (bytes (layout.lineStart (level + 1)) ++
        0x22 :: fieldBytes layout (level + 1) field
          (bytes (layout.writeFields (level + 1) fields) ++
            (bytes (layout.lineStart level) ++ 0x7D :: rest))) := by
  simp only [Layout.write, writeString, fieldBytes, Text.bytes_append, List.append_assoc]
  rfl

variable (layout level) in
theorem endsNumber_writeFields (fields : List (String × Value)) {blanks : List Char}
    (hblanks : ∀ c ∈ blanks, IsBlank c) (rest : List UInt8) :
    EndsNumber (bytes (layout.writeFields level fields) ++ (bytes blanks ++ 0x7D :: rest)) := by
  cases fields with
  | nil => exact endsNumber_blanks hblanks (endsNumber_cons _ (by decide) rest)
  | cons field fields =>
      rw [bytes_writeFields_cons]
      exact endsNumber_cons _ (by decide) _

variable (layout level) in
theorem length_le_fieldBytes (field : String × Value) (rest : List UInt8) :
    rest.length ≤ (fieldBytes layout level field rest).length := by
  simp only [fieldBytes, List.length_append, List.length_cons]
  omega

theorem readField_fieldBytes (hlayout : layout.IsBlank)
    (hskips : ∀ bytes, readItem (skipBlanks bytes) = readItem bytes) {field : String × Value}
    (hvalue : ReadsBack layout limit readItem level field.2) {rest : List UInt8}
    (hrest : EndsNumber rest) (hlimit : (fieldBytes layout level field rest).length ≤ limit) :
    readField limit readItem (fieldBytes layout level field rest) = .ok (field, rest) := by
  obtain ⟨blanks, hcolon, hblanks⟩ := hlayout.colon
  have htext : fieldBytes layout level field rest = bytes (field.1.toList.flatMap writeChar) ++
      0x22 :: 0x3A :: (bytes blanks ++ (bytes (layout.write level field.2) ++ rest)) := by
    rw [fieldBytes, hcolon]
    rfl
  rw [htext] at hlimit ⊢
  have hroom : (bytes blanks ++ (bytes (layout.write level field.2) ++ rest)).length ≤ limit := by
    rw [List.length_append, List.length_cons, List.length_cons] at hlimit
    omega
  obtain ⟨byte, text, -, hskip, hread⟩ := hvalue.exists_read hblanks hrest hroom
  -- The blanks behind the colon are left to the reader of the value.
  rw [readField, readString_flatMap field.1 hlimit]
  change (readItem (bytes blanks ++ (bytes (layout.write level field.2) ++ rest)) >>= _) = _
  rw [← hskips, hskip, hread]
  rfl

theorem readMoreFields_close {blanks : List Char} (hblanks : ∀ c ∈ blanks, IsBlank c) (fuel : Nat)
    (rest : List UInt8) :
    readMoreFields limit readItem (fuel + 1) (bytes blanks ++ 0x7D :: rest) = .ok ([], rest) := by
  rw [readMoreFields, skipBlanks_append hblanks]
  rfl

theorem readMoreFields_cons {fuel : Nat} {bytes text : List UInt8}
    (hbytes : skipBlanks bytes = 0x22 :: text) :
    readMoreFields limit readItem (fuel + 1) (0x2C :: bytes) = do
      let (field, rest) ← readField limit readItem text
      let (fields, rest) ← readMoreFields limit readItem fuel rest
      return (field :: fields, rest) := by
  have hcomma : skipBlanks (0x2C :: bytes) = 0x2C :: bytes := skipBlanks_cons (by decide) _
  rw [readMoreFields, hcomma]
  split
  next heq => cases heq
  next heq => cases heq
  next heq =>
    cases heq
    rw [hbytes]
    rfl
  next hcomma heq => exact absurd (List.cons.inj heq).1.symm hcomma

theorem readMoreFields_writeFields (hlayout : layout.IsBlank)
    (hskips : ∀ bytes, readItem (skipBlanks bytes) = readItem bytes)
    {fields : List (String × Value)}
    (hfields : ∀ field ∈ fields, ReadsBack layout limit readItem level field.2)
    {blanks : List Char} (hblanks : ∀ c ∈ blanks, IsBlank c) {fuel : Nat} (hlimit : fuel ≤ limit)
    {rest : List UInt8}
    (hfuel : (bytes (layout.writeFields level fields) ++ (bytes blanks ++ 0x7D :: rest)).length ≤
      fuel) :
    readMoreFields limit readItem fuel
      (bytes (layout.writeFields level fields) ++ (bytes blanks ++ 0x7D :: rest)) =
        .ok (fields, rest) := by
  induction fields generalizing fuel with
  | nil =>
      cases fuel with
      | zero => simp at hfuel
      | succ fuel => exact readMoreFields_close hblanks fuel rest
  | cons field fields ih =>
      obtain ⟨hfield, hfields⟩ := List.forall_mem_cons.mp hfields
      have hends := endsNumber_writeFields layout level fields hblanks rest
      have hbehind := length_le_fieldBytes layout level field
        (bytes (layout.writeFields level fields) ++ (bytes blanks ++ 0x7D :: rest))
      rw [bytes_writeFields_cons] at hfuel ⊢
      cases fuel with
      | zero => cases hfuel
      | succ fuel =>
          have hroom := Nat.le_of_succ_le_succ hfuel
          rw [List.length_append, List.length_cons] at hroom
          rw [readMoreFields_cons (skipBlanks_append (hlayout.lineStart level) _),
            readField_fieldBytes hlayout hskips hfield hends (by omega)]
          change (readMoreFields limit readItem fuel _ >>= _) = _
          rw [ih hfields (Nat.le_of_succ_le hlimit) (by omega)]
          rfl

theorem readObject_write (hlayout : layout.IsBlank)
    (hskips : ∀ bytes, readItem (skipBlanks bytes) = readItem bytes) {field : String × Value}
    {fields : List (String × Value)} (hkeys : ((field :: fields).map Prod.fst).Nodup)
    (hfields : ∀ other ∈ field :: fields, ReadsBack layout limit readItem (level + 1) other.2)
    {behind rest : List UInt8}
    (htext : bytes (layout.write level (.object (field :: fields))) ++ rest = 0x7B :: behind)
    (hlimit : behind.length ≤ limit) :
    readObject limit readItem behind = .ok (.object (field :: fields), rest) := by
  obtain ⟨hfield, hfields⟩ := List.forall_mem_cons.mp hfields
  have hends := endsNumber_writeFields layout (level + 1) fields (hlayout.lineStart level) rest
  have hbehind := length_le_fieldBytes layout (level + 1) field
    (bytes (layout.writeFields (level + 1) fields) ++
      (bytes (layout.lineStart level) ++ 0x7D :: rest))
  rw [bytes_write_object_cons] at htext
  cases htext
  rw [List.length_append, List.length_cons] at hlimit
  rw [readObject, skipBlanks_append (hlayout.lineStart (level + 1))]
  change (readField limit readItem _ >>= _) = _
  rw [readField_fieldBytes hlayout hskips hfield hends (by omega)]
  change (readMoreFields limit readItem limit _ >>= _) = _
  rw [readMoreFields_writeFields hlayout hskips hfields (hlayout.lineStart level)
    (Nat.le_refl limit) (by omega)]
  change Except.ok (Value.object (mergeFields (field :: fields)), rest) = _
  rw [mergeFields_of_nodup hkeys]

end Containers

/-! ## Values -/

theorem skipBlanks_skipBlanks (bytes : List UInt8) :
    skipBlanks (skipBlanks bytes) = skipBlanks bytes :=
  List.dropWhile_idempotent _ _

theorem readValue_skipBlanks (limit depth : Nat) (bytes : List UInt8) :
    readValue limit depth (skipBlanks bytes) = readValue limit depth bytes := by
  rw [readValue.eq_def, skipBlanks_skipBlanks, ← readValue.eq_def]

theorem readValue_of_opens {byte : UInt8} (hopens : Opens byte) (harray : byte ≠ 0x5B)
    (hobject : byte ≠ 0x7B) (limit depth : Nat) (rest : List UInt8) :
    readValue limit depth (byte :: rest) = readScalar limit byte rest := by
  rw [readValue.eq_def, skipBlanks_cons hopens]
  split
  next heq => cases heq
  next heq => exact absurd (List.cons.inj heq).1 harray
  next heq => exact absurd (List.cons.inj heq).1 hobject
  next heq =>
    cases heq
    rfl

theorem opens_of_digit? {byte : UInt8} {d : Nat} (h : digit? byte = some d) :
    Opens byte ∧ byte ≠ 0x5B ∧ byte ≠ 0x7B := by
  refine ⟨fun hmem => ?_, ?_, ?_⟩
  · simp only [List.mem_cons, List.not_mem_nil, or_false] at hmem
    rcases hmem with rfl | rfl | rfl | rfl | rfl <;> cases h
  · rintro rfl
    cases h
  · rintro rfl
    cases h

section Values

variable {layout : Layout} {limit depth level : Nat}

theorem readsBack_number {number : Number} (h : number.ReadBack) :
    ReadsBack layout limit (readValue limit depth) level (.number number) := by
  obtain ⟨c, text, hwrite, hc, hread⟩ := h
  have hcode : c.toNat < 128 := by
    rcases hc with hdigit | rfl
    · exact toNat_lt_of_isDigit hdigit
    · decide
  have hfirst : Opens (UInt8.ofNat c.toNat) ∧ UInt8.ofNat c.toNat ≠ 0x5B ∧
      UInt8.ofNat c.toNat ≠ 0x7B := by
    rcases hc with hdigit | rfl
    · exact opens_of_digit? (digit?_of_isDigit hdigit)
    · decide
  have htext : bytes (layout.write level (.number number)) =
      UInt8.ofNat c.toNat :: bytes text := by
    rw [Layout.write, hwrite, Text.bytes_cons_of_lt hcode]
  refine ⟨⟨_, _, htext, hfirst.1⟩, fun rest hrest _ => ?_⟩
  rw [htext, List.cons_append, readValue_of_opens hfirst.1 hfirst.2.1 hfirst.2.2]
  exact hread limit rest hrest

theorem readsBack_string (text : String) :
    ReadsBack layout limit (readValue limit depth) level (.string text) := by
  refine ⟨⟨0x22, _, rfl, by decide⟩, fun rest _ hlimit => ?_⟩
  have htext : bytes (layout.write level (.string text)) ++ rest =
      0x22 :: (bytes (text.toList.flatMap writeChar) ++ 0x22 :: rest) := by
    simp only [Layout.write, writeString, Text.bytes_append, List.append_assoc]
    rfl
  rw [htext] at hlimit ⊢
  rw [readValue_of_opens (by decide) (by decide) (by decide)]
  change (readString limit _ >>= _) = _
  rw [readString_flatMap text (Nat.le_of_succ_le hlimit)]
  rfl

theorem readsBack_array (hlayout : layout.IsBlank) {items : List Value}
    (hitems : ∀ item ∈ items, ReadsBack layout limit (readValue limit depth) (level + 1) item) :
    ReadsBack layout limit (readValue limit (depth + 1)) level (.array items) := by
  cases items with
  | nil => exact ⟨⟨0x5B, _, rfl, by decide⟩, fun rest _ _ => rfl⟩
  | cons item items =>
      refine ⟨⟨0x5B, _, rfl, by decide⟩, fun rest _ hlimit => ?_⟩
      have htext := bytes_write_array_cons layout level item items rest
      rw [htext] at hlimit
      rw [htext]
      exact readArray_write hlayout hitems htext (Nat.le_of_succ_le hlimit)

theorem readsBack_object (hlayout : layout.IsBlank) {fields : List (String × Value)}
    (hkeys : (fields.map Prod.fst).Nodup)
    (hfields : ∀ field ∈ fields,
      ReadsBack layout limit (readValue limit depth) (level + 1) field.2) :
    ReadsBack layout limit (readValue limit (depth + 1)) level (.object fields) := by
  cases fields with
  | nil => exact ⟨⟨0x7B, _, rfl, by decide⟩, fun rest _ _ => rfl⟩
  | cons field fields =>
      refine ⟨⟨0x7B, _, rfl, by decide⟩, fun rest _ hlimit => ?_⟩
      have htext := bytes_write_object_cons layout level field fields rest
      rw [htext] at hlimit
      rw [htext]
      exact readObject_write hlayout (readValue_skipBlanks limit depth) hkeys hfields htext
        (Nat.le_of_succ_le hlimit)

end Values

theorem readsBack_of_legible {layout : Layout} (hlayout : layout.IsBlank) {limit depth level : Nat}
    {value : Value} (h : Legible Number.ReadBack depth value) :
    ReadsBack layout limit (readValue limit depth) level value := by
  induction h generalizing level with
  | null =>
      refine ⟨⟨0x6E, _, rfl, by decide⟩, fun rest _ _ => ?_⟩
      exact readValue_of_opens (by decide) (by decide) (by decide) _ _ _
  | bool value =>
      cases value with
      | false =>
          refine ⟨⟨0x66, _, rfl, by decide⟩, fun rest _ _ => ?_⟩
          exact readValue_of_opens (by decide) (by decide) (by decide) _ _ _
      | true =>
          refine ⟨⟨0x74, _, rfl, by decide⟩, fun rest _ _ => ?_⟩
          exact readValue_of_opens (by decide) (by decide) (by decide) _ _ _
  | number hgood => exact readsBack_number hgood
  | string text => exact readsBack_string text
  | array hitems ih => exact readsBack_array hlayout fun item hitem => ih item hitem
  | object hkeys hfields ih =>
      exact readsBack_object hlayout hkeys fun field hfield => ih field hfield

/-! ## Documents -/

theorem readEnd_blanks {blanks : List Char} (h : ∀ c ∈ blanks, IsBlank c) :
    readEnd (bytes blanks) = .ok () := by
  have hskip := skipBlanks_append h []
  rw [List.append_nil] at hskip
  rw [readEnd, hskip]
  rfl

/-- A document is read back from each of its written forms, whatever blanks stand behind it. -/
theorem read_write {layout : Layout} (hlayout : layout.IsBlank) {document : Value}
    (h : Legible Number.ReadBack depthLimit document) (hobject : document.isObject)
    {blanks : List Char} (hblanks : ∀ c ∈ blanks, IsBlank c) :
    read (bytes (layout.write 0 document) ++ bytes blanks) = .ok document := by
  have hends : EndsNumber (bytes blanks) := by
    rw [← List.append_nil (bytes blanks)]
    exact endsNumber_blanks hblanks (by rintro _ ⟨⟩)
  generalize hlimit : (bytes (layout.write 0 document) ++ bytes blanks).length + 1 = limit
  have hback : ReadsBack layout limit (readValue limit depthLimit) 0 document :=
    readsBack_of_legible hlayout h
  have hread := hback.read (bytes blanks) hends (hlimit ▸ Nat.le_succ _)
  have hroot : readRoot limit (bytes (layout.write 0 document) ++ bytes blanks) =
      .ok (document, bytes blanks) := by
    rw [← hread]
    cases document with
    | object fields => cases fields <;> rfl
    | _ => cases hobject
  rw [read, hlimit]
  apply mapError_eq_ok_iff.mpr
  rw [hroot]
  change (readEnd (bytes blanks) >>= _) = _
  rw [readEnd_blanks hblanks]
  rfl

theorem read_encode_indented (width : Nat) {document : Value}
    (h : Legible Number.ReadBack depthLimit document) (hobject : document.isObject) :
    read (Text.encode (document.indented width ++ "\n")) = .ok document := by
  have hline : ∀ c ∈ ['\n'], IsBlank c := List.forall_mem_singleton.mpr (by decide)
  rw [Text.encode_append, Text.encode_eq_bytes, Value.indented, String.toList_ofList]
  exact read_write (Layout.isBlank_indented width) h hobject hline

end Suppression.Json
