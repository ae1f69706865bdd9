import Suppression.Proofs.Filter.Cutting

/-!
# Where words stand

The words of a filter, said about the positions in its text. A blank separates if the run of
backslashes directly in front of it is even, and a word reaches from one separating blank, or
an end of the text, to the next one. So the words hold all of the text but these blanks, and
it does not matter how many of them stand between two words.
-/

namespace Suppression.Filter

open Text

/-- At this position stands a blank with an even number of backslashes directly in front. -/
def CutsAt (text : List Char) (position : Nat) : Prop :=
  text[position]?.any isBlank = true ∧ Even ((text.take position).rtakeWhile (· = '\\')).length

instance (text : List Char) (position : Nat) : Decidable (CutsAt text position) :=
  inferInstanceAs (Decidable (_ ∧ _))

/-- From `start` up to `stop` the text has no separating blank, and it cannot be followed any
further in either direction without meeting one. -/
structure WordAt (text : List Char) (start stop : Nat) : Prop where
  nonempty : start < stop
  bound : stop ≤ text.length
  uncut : ∀ position, start ≤ position → position < stop → ¬ CutsAt text position
  begins : start = 0 ∨ CutsAt text (start - 1)
  ends : stop = text.length ∨ CutsAt text stop

/-- The text without its separating blanks. -/
def dropCuts (text : List Char) : List Char :=
  (text.zipIdx.filter fun (_, position) => ¬ CutsAt text position).map Prod.fst

/-! ## Separating blanks -/

theorem cutsAt_iff {text : List Char} {position : Nat} :
    CutsAt text position ↔
      text[position]?.any isBlank = true ∧ endsOpen (text.take position) = false := by
  rw [CutsAt, ← Nat.not_odd_iff_even, ← endsOpen_iff_odd, Bool.not_eq_true]

theorem lt_length_of_cutsAt {text : List Char} {position : Nat} (h : CutsAt text position) :
    position < text.length := by
  by_contra hle
  have hnone : text[position]? = none := List.getElem?_eq_none (Nat.le_of_not_lt hle)
  simp [CutsAt, hnone] at h

theorem cutsAt_append_left {piece : List Char} {position : Nat} (h : position < piece.length)
    (behind : List Char) : CutsAt (piece ++ behind) position ↔ CutsAt piece position := by
  rw [CutsAt, CutsAt, List.getElem?_append_left h, List.take_append_of_le_length (Nat.le_of_lt h)]

section Cut

variable (piece rest : List Char) {blank : Char} (hblank : isBlank blank = true)
include hblank

theorem cutsAt_length (hclosed : endsOpen piece = false) :
    CutsAt (piece ++ blank :: rest) piece.length := by
  rw [cutsAt_iff, List.take_left]
  exact ⟨by simpa using hblank, hclosed⟩

/-- A blank hides the backslashes in front of it from the blanks behind it. -/
theorem cutsAt_behind (position : Nat) :
    CutsAt (piece ++ blank :: rest) (piece.length + 1 + position) ↔ CutsAt rest position := by
  have hget : (piece ++ blank :: rest)[piece.length + 1 + position]? = rest[position]? := by
    rw [List.getElem?_append_right (by omega), Nat.add_assoc, Nat.add_sub_cancel_left,
      Nat.add_comm 1, List.getElem?_cons_succ]
  have htake : (piece ++ blank :: rest).take (piece.length + 1 + position) =
      piece ++ blank :: rest.take position := by
    rw [Nat.add_assoc, List.take_length_add_append, Nat.add_comm 1, List.take_succ_cons]
  rw [cutsAt_iff, cutsAt_iff, hget, htake,
    endsOpen_append_cons (ne_backslash_of_isBlank hblank)]

end Cut

/-! ## Pieces -/

/-- The pieces of a text that has been cut at all its separating blanks. -/
inductive CutInto : List Char → List (List Char) → Prop where
  | last {piece : List Char} (hpiece : ∀ position, ¬ CutsAt piece position) :
      CutInto piece [piece]
  | cut {piece rest : List Char} {blank : Char} {pieces : List (List Char)}
      (hpiece : ∀ position, ¬ CutsAt piece position) (hclosed : endsOpen piece = false)
      (hblank : isBlank blank = true) (hrest : CutInto rest pieces) :
      CutInto (piece ++ blank :: rest) (piece :: pieces)

/-- A text without separating blanks is one piece. -/
theorem cutAtBlanks_eq_singleton {text : List Char} (h : ∀ position, ¬ CutsAt text position) :
    cutAtBlanks text = [text] := by
  simp only [cutsAt_iff] at h
  fun_induction cutAtBlanks text with
  | case1 => rfl
  | case2 c text ih =>
      -- The scanner skips an escaped character, and so may the run in front of a blank.
      have htext := ih fun position => by simpa [endsOpen] using h (position + 2)
      rw [htext]
      rfl
  | case3 c text hpair hc ih => exact absurd ⟨by simpa using hc, rfl⟩ (h 0)
  | case4 c text hpair hc ih =>
      by_cases hbackslash : c = '\\'
      · subst hbackslash
        cases text with
        | nil => rfl
        | cons d text => exact absurd rfl (hpair d text rfl)
      · have htext := ih fun position => by
          simpa [endsOpen_cons hbackslash] using h (position + 1)
        rw [htext]
        rfl

theorem CutInto.append {front back : List Char} {frontPieces backPieces : List (List Char)}
    (hfront : CutInto front frontPieces) (hclosed : endsOpen front = false) {blank : Char}
    (hblank : isBlank blank = true) (hback : CutInto back backPieces) :
    CutInto (front ++ blank :: back) (frontPieces ++ backPieces) := by
  induction hfront with
  | last hpiece => exact .cut hpiece hclosed hblank hback
  | @cut piece rest other pieces hpiece hpieceClosed hother hrest ih =>
      rw [endsOpen_append_cons (ne_backslash_of_isBlank hother)] at hclosed
      rw [List.append_assoc]
      exact .cut hpiece hpieceClosed hother (ih hclosed)

theorem cutInto_cutAtBlanks (text : List Char) : CutInto text (cutAtBlanks text) := by
  induction hlength : text.length using Nat.strongRecOn generalizing text with
  | ind length ih =>
      by_cases hcut : ∃ position, CutsAt text position
      · -- Any separating blank will do, because the parts on both sides are shorter.
        obtain ⟨position, hcut⟩ := hcut
        have hlt := lt_length_of_cutsAt hcut
        obtain ⟨hblank, hclosed⟩ := cutsAt_iff.mp hcut
        have htext : text = text.take position ++ text[position] :: text.drop (position + 1) := by
          rw [List.getElem_cons_drop, List.take_append_drop]
        have hblank : isBlank text[position] = true := by simpa [hlt] using hblank
        have hfront := ih (text.take position).length (by simp; omega) _ rfl
        have hback := ih (text.drop (position + 1)).length (by simp; omega) _ rfl
        rw [htext, cutAtBlanks_append_blank hclosed hblank]
        exact hfront.append hclosed hblank hback
      · rw [not_exists] at hcut
        rw [cutAtBlanks_eq_singleton hcut]
        exact .last hcut

/-! ## Spans -/

/-- The span of a piece at the beginning of a text. An empty piece has none. -/
def firstSpan (piece : List Char) : List (Nat × Nat) :=
  if piece = [] then [] else [(0, piece.length)]

theorem mem_firstSpan {piece : List Char} {start stop : Nat} :
    (start, stop) ∈ firstSpan piece ↔ 0 < piece.length ∧ start = 0 ∧ stop = piece.length := by
  unfold firstSpan
  split
  next hnil => simp [hnil]
  next hne => simp [List.length_pos_of_ne_nil hne]

/-- No word but the first piece begins in front of the first separating blank. -/
theorem wordAt_iff_mem_firstSpan {text piece : List Char} {start stop : Nat}
    (hbound : piece.length ≤ text.length)
    (huncut : ∀ position, position < piece.length → ¬ CutsAt text position)
    (hends : piece.length = text.length ∨ CutsAt text piece.length)
    (hstart : start ≤ piece.length) :
    WordAt text start stop ↔ (start, stop) ∈ firstSpan piece := by
  rw [mem_firstSpan]
  constructor
  · intro hword
    have hzero : start = 0 := by
      rcases hword.begins with hzero | hcut
      · exact hzero
      · by_contra hne
        exact huncut (start - 1) (by omega) hcut
    have hstop : stop = piece.length := by
      rcases Nat.lt_trichotomy stop piece.length with hlt | heq | hlt
      · rcases hword.ends with hlength | hcut
        · omega
        · exact absurd hcut (huncut stop hlt)
      · exact heq
      · rcases hends with hlength | hcut
        · have hbound := hword.bound
          omega
        · exact absurd hcut (hword.uncut piece.length hstart hlt)
    exact ⟨hstop ▸ hzero ▸ hword.nonempty, hzero, hstop⟩
  · rintro ⟨hpos, rfl, rfl⟩
    exact ⟨hpos, hbound, fun position _ hlt => huncut position hlt, .inl rfl, hends⟩

/-- The words behind a separating blank are those of the text that begins there. -/
theorem wordAt_behind {piece rest : List Char} {blank : Char} (hblank : isBlank blank = true)
    (hclosed : endsOpen piece = false) {start stop : Nat} :
    WordAt (piece ++ blank :: rest) (piece.length + 1 + start) (piece.length + 1 + stop) ↔
      WordAt rest start stop := by
  have hcut := cutsAt_length piece rest hblank hclosed
  have hbehind := cutsAt_behind piece rest hblank
  have hlength : (piece ++ blank :: rest).length = piece.length + 1 + rest.length := by
    simp
    omega
  have huncut : (∀ position, piece.length + 1 + start ≤ position →
      position < piece.length + 1 + stop → ¬ CutsAt (piece ++ blank :: rest) position) ↔
        ∀ position, start ≤ position → position < stop → ¬ CutsAt rest position := by
    constructor
    · intro huncut position hle hlt
      rw [← hbehind]
      exact huncut _ (by omega) (by omega)
    · intro huncut position hle hlt
      obtain ⟨behind, rfl⟩ := Nat.exists_eq_add_of_le (Nat.le_trans (Nat.le_add_right ..) hle)
      rw [hbehind]
      exact huncut _ (by omega) (by omega)
  have hbegins : CutsAt (piece ++ blank :: rest) (piece.length + 1 + start - 1) ↔
      start = 0 ∨ CutsAt rest (start - 1) := by
    cases start with
    | zero => simpa using hcut
    | succ start => simpa using hbehind start
  have hends : (piece.length + 1 + stop = (piece ++ blank :: rest).length ∨
      CutsAt (piece ++ blank :: rest) (piece.length + 1 + stop)) ↔
        stop = rest.length ∨ CutsAt rest stop := by
    rw [hbehind, hlength, Nat.add_left_cancel_iff]
  constructor
  · intro hword
    have hnonempty := hword.nonempty
    have hbound := hword.bound
    refine ⟨by omega, by omega, huncut.mp hword.uncut, ?_, hends.mp hword.ends⟩
    exact hbegins.mp (hword.begins.resolve_left (by omega))
  · intro hword
    have hnonempty := hword.nonempty
    have hbound := hword.bound
    exact ⟨by omega, by omega, huncut.mpr hword.uncut, .inr (hbegins.mpr hword.begins),
      hends.mpr hword.ends⟩

theorem extract_firstSpan (piece behind : List Char) :
    (firstSpan piece).map (fun span => (piece ++ behind).extract span.1 span.2) =
      [piece].filter (· ≠ []) := by
  unfold firstSpan
  split
  next hnil => simp [hnil]
  next hne => simp [hne, List.extract_eq_take_drop]

theorem extract_behind (piece rest : List Char) (blank : Char) (start stop : Nat) :
    (piece ++ blank :: rest).extract (piece.length + 1 + start) (piece.length + 1 + stop) =
      rest.extract start stop := by
  have hdrop : (piece ++ blank :: rest).drop (piece.length + 1 + start) = rest.drop start := by
    rw [Nat.add_assoc, List.drop_length_add_append, Nat.add_comm 1, List.drop_succ_cons]
  have hlength : piece.length + 1 + stop - (piece.length + 1 + start) = stop - start := by omega
  rw [List.extract_eq_take_drop, List.extract_eq_take_drop, hdrop, hlength]

/-- The spans of the words of a text behind its first separating blank. -/
def spansBehind (piece : List Char) (spans : List (Nat × Nat)) : List (Nat × Nat) :=
  spans.map fun span => (piece.length + 1 + span.1, piece.length + 1 + span.2)

theorem pairwise_firstSpan_append {spans : List (Nat × Nat)} (piece : List Char)
    (h : spans.Pairwise fun left right => left.2 < right.1) :
    (firstSpan piece ++ spansBehind piece spans).Pairwise fun left right =>
      left.2 < right.1 := by
  rw [List.pairwise_append]
  refine ⟨?_, ?_, ?_⟩
  · unfold firstSpan
    split <;> simp
  · exact List.pairwise_map.mpr (h.imp fun hlt => Nat.add_lt_add_left hlt _)
  · rintro ⟨start, stop⟩ hleft right hright
    obtain ⟨span, -, rfl⟩ := List.mem_map.mp hright
    obtain ⟨-, -, rfl⟩ := mem_firstSpan.mp hleft
    change piece.length < piece.length + 1 + span.1
    omega

theorem mem_spansBehind {piece : List Char} {spans : List (Nat × Nat)} {start stop : Nat} :
    (piece.length + 1 + start, piece.length + 1 + stop) ∈ spansBehind piece spans ↔
      (start, stop) ∈ spans := by
  simp [spansBehind]

theorem lt_of_mem_spansBehind {piece : List Char} {spans : List (Nat × Nat)} {start stop : Nat}
    (h : (start, stop) ∈ spansBehind piece spans) : piece.length < start ∧ piece.length < stop := by
  obtain ⟨span, -, heq⟩ := List.mem_map.mp h
  cases heq
  omega

section Cut

variable {piece rest : List Char} {blank : Char} {spans : List (Nat × Nat)}
  (hpiece : ∀ position, ¬ CutsAt piece position) (hclosed : endsOpen piece = false)
  (hblank : isBlank blank = true)
  (hspans : ∀ start stop, (start, stop) ∈ spans ↔ WordAt rest start stop)
include hpiece hclosed hblank hspans

/-- A word is the first piece, or it stands behind the first separating blank. -/
theorem mem_append_spansBehind (start stop : Nat) :
    (start, stop) ∈ firstSpan piece ++ spansBehind piece spans ↔
      WordAt (piece ++ blank :: rest) start stop := by
  rw [List.mem_append]
  by_cases hstart : start ≤ piece.length
  · have hfirst : WordAt (piece ++ blank :: rest) start stop ↔
        (start, stop) ∈ firstSpan piece := by
      apply wordAt_iff_mem_firstSpan _ _ (.inr (cutsAt_length piece rest hblank hclosed)) hstart
      · simp
      · intro position hlt
        rw [cutsAt_append_left hlt]
        exact hpiece position
    have hnot : (start, stop) ∉ spansBehind piece spans := fun hmem =>
      Nat.not_lt.mpr hstart (lt_of_mem_spansBehind hmem).1
    rw [hfirst, or_iff_left hnot]
  · have hnot : (start, stop) ∉ firstSpan piece := by
      rw [mem_firstSpan]
      omega
    rw [or_iff_right hnot]
    by_cases hstop : stop ≤ piece.length
    · refine iff_of_false (fun hmem => ?_) fun hword => ?_
      · exact Nat.not_lt.mpr hstop (lt_of_mem_spansBehind hmem).2
      · have hnonempty := hword.nonempty
        omega
    · obtain ⟨start, rfl⟩ := Nat.exists_eq_add_of_lt (Nat.lt_of_not_le hstart)
      obtain ⟨stop, rfl⟩ := Nat.exists_eq_add_of_lt (Nat.lt_of_not_le hstop)
      rw [Nat.add_right_comm, Nat.add_right_comm _ stop, mem_spansBehind, hspans,
        wordAt_behind hblank hclosed]

end Cut

/-- The pieces that hold something are the words, in their order. -/
theorem CutInto.exists_spans {text : List Char} {pieces : List (List Char)}
    (h : CutInto text pieces) :
    ∃ spans : List (Nat × Nat), spans.Pairwise (fun left right => left.2 < right.1) ∧
      (∀ start stop, (start, stop) ∈ spans ↔ WordAt text start stop) ∧
      pieces.filter (· ≠ []) = spans.map fun span => text.extract span.1 span.2 := by
  induction h with
  | @last piece hpiece =>
      refine ⟨firstSpan piece, ?_, ?_, ?_⟩
      · simpa [spansBehind] using pairwise_firstSpan_append piece List.Pairwise.nil
      · intro start stop
        by_cases hstart : start ≤ piece.length
        · exact (wordAt_iff_mem_firstSpan (Nat.le_refl _) (fun position _ => hpiece position)
            (.inl rfl) hstart).symm
        · rw [mem_firstSpan]
          refine iff_of_false (by omega) fun hword => ?_
          exact hstart (Nat.le_of_lt (Nat.lt_of_lt_of_le hword.nonempty hword.bound))
      · have hextract := extract_firstSpan piece []
        rw [List.append_nil] at hextract
        exact hextract.symm
  | @cut piece rest blank pieces hpiece hclosed hblank hrest ih =>
      obtain ⟨spans, hsorted, hspans, hpieces⟩ := ih
      refine ⟨firstSpan piece ++ spansBehind piece spans,
        pairwise_firstSpan_append piece hsorted,
        mem_append_spansBehind hpiece hclosed hblank hspans, ?_⟩
      have hfilter : (piece :: pieces).filter (· ≠ []) =
          [piece].filter (· ≠ []) ++ pieces.filter (· ≠ []) :=
        List.filter_append [piece] pieces
      rw [hfilter, List.map_append, extract_firstSpan, spansBehind, List.map_map, hpieces]
      simp only [Function.comp_def, extract_behind]

/-! ## What is left out -/

theorem dropCuts_of_uncut {text : List Char} (h : ∀ position, ¬ CutsAt text position) :
    dropCuts text = text := by
  rw [dropCuts, List.filter_eq_self.mpr]
  · exact List.zipIdx_map_fst ..
  · simpa using fun c position _ => h position

theorem dropCuts_cut {piece rest : List Char} {blank : Char}
    (hpiece : ∀ position, ¬ CutsAt piece position) (hclosed : endsOpen piece = false)
    (hblank : isBlank blank = true) :
    dropCuts (piece ++ blank :: rest) = piece ++ dropCuts rest := by
  have hfront : piece.zipIdx.filter
      (fun (_, position) => ¬ CutsAt (piece ++ blank :: rest) position) = piece.zipIdx := by
    rw [List.filter_eq_self]
    intro entry hentry
    have hlt : entry.2 < piece.length := by
      have := List.snd_lt_of_mem_zipIdx hentry
      omega
    simpa [cutsAt_append_left hlt] using hpiece entry.2
  have hbehind : (rest.zipIdx (piece.length + 1)).filter
      (fun (_, position) => ¬ CutsAt (piece ++ blank :: rest) position) =
        (rest.zipIdx.filter fun (_, position) => ¬ CutsAt rest position).map
          fun entry => (entry.1, piece.length + 1 + entry.2) := by
    rw [List.zipIdx_eq_map_add, List.filter_map]
    simp only [Function.comp_def, cutsAt_behind piece rest hblank]
  have hcut := cutsAt_length piece rest hblank hclosed
  rw [dropCuts, List.zipIdx_append, List.zipIdx_cons, List.filter_append, Nat.zero_add, hfront,
    List.filter_cons_of_neg (by simpa using hcut), hbehind, List.map_append, List.map_map,
    List.zipIdx_map_fst]
  rfl

/-- All of the text but the separating blanks stands in the pieces. -/
theorem CutInto.flatten_eq {text : List Char} {pieces : List (List Char)}
    (h : CutInto text pieces) : pieces.flatten = dropCuts text := by
  induction h with
  | last hpiece => simp [dropCuts_of_uncut hpiece]
  | cut hpiece hclosed hblank hrest ih =>
      rw [dropCuts_cut hpiece hclosed hblank, List.flatten_cons, ih]

/-! ## Joining words -/

/-- Joined by single spaces, the pieces that hold something are cut apart again. -/
theorem CutInto.cutAtBlanks_intercalate {text : List Char} {pieces : List (List Char)}
    (h : CutInto text pieces) :
    (cutAtBlanks ([' '].intercalate (pieces.filter (· ≠ [])))).filter (· ≠ []) =
      pieces.filter (· ≠ []) := by
  induction h with
  | @last piece hpiece =>
      by_cases hnil : piece = []
      · subst hnil
        rfl
      · have hself : [piece].filter (· ≠ []) = [piece] := by simp [hnil]
        rw [hself, List.intercalate_singleton, cutAtBlanks_eq_singleton hpiece, hself]
  | @cut piece rest blank pieces hpiece hclosed hblank hrest ih =>
      -- An empty piece is no word, so no space is put behind it.
      by_cases hnil : piece = []
      · rw [List.filter_cons_of_neg (by simpa using hnil)]
        exact ih
      · rw [List.filter_cons_of_pos (by simpa using hnil)]
        cases hpieces : pieces.filter (· ≠ []) with
        | nil =>
            rw [List.intercalate_singleton, cutAtBlanks_eq_singleton hpiece]
            simp [hnil]
        | cons second others =>
            rw [hpieces] at ih
            rw [List.intercalate_cons_cons, List.append_assoc, List.singleton_append,
              cutAtBlanks_append_blank hclosed (by decide), List.filter_append, ih,
              cutAtBlanks_eq_singleton hpiece]
            simp [hnil]

/-- The words of a filter are its longest texts between separating blanks, in their order and
with every backslash. Together they hold the filter without its separating blanks, and joined
by single spaces they are the words of a filter again. -/
theorem words_eq_spans (filter : String) :
    (∃ spans : List (Nat × Nat), spans.Pairwise (fun left right => left.2 < right.1) ∧
      (∀ start stop, (start, stop) ∈ spans ↔ WordAt filter.toList start stop) ∧
      words filter =
        spans.map fun span => String.ofList (filter.toList.extract span.1 span.2)) ∧
    String.join (words filter) = String.ofList (dropCuts filter.toList) ∧
    words (" ".intercalate (words filter)) = words filter := by
  have hcut := cutInto_cutAtBlanks filter.toList
  refine ⟨?_, ?_, ?_⟩
  · obtain ⟨spans, hsorted, hspans, hpieces⟩ := hcut.exists_spans
    refine ⟨spans, hsorted, hspans, ?_⟩
    rw [words, hpieces, List.map_map]
    rfl
  · rw [← hcut.flatten_eq, ← List.flatten_filter_ne_nil, ← String.toList_inj,
      String.toList_join, String.toList_ofList, words, List.flatMap_map, List.flatten_eq_flatMap]
    simp
  · have htext : (" ".intercalate (words filter)).toList =
        [' '].intercalate ((cutAtBlanks filter.toList).filter (· ≠ [])) := by
      rw [String.toList_intercalate, words, List.map_map]
      simp [Function.comp_def]
    rw [words, htext, hcut.cutAtBlanks_intercalate]
    rfl

end Suppression.Filter
