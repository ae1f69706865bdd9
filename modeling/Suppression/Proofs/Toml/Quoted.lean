import Suppression.Toml.Quoted
import Suppression.Toml.Writer
import Mathlib.Data.Option.Basic

/-!
# Quoted texts are read back

A text has one of four written forms. Between single quotes it stands as it is, and between
double quotes each character is an escape, or as it is. Behind three quotes a text may end in
one or two quotes of its own, which stand in front of the three that close it.
-/

namespace Suppression.Toml

/-! ## Characters -/

theorem isPlainChar_of_isControl_eq_false {c : Char} (h : isControl c = false) (hline : c ≠ '\n') :
    isPlainChar c := by
  by_cases htab : c = '\t'
  · simp [isPlainChar, htab]
  · have hlow : 32 ≤ c.toNat := by
      rcases Nat.lt_or_ge c.toNat 32 with hlow | hlow
      · simp [isControl, htab, hline, hlow] at h
      · exact hlow
    have hdelete : c.toNat ≠ 127 := by
      intro hdelete
      simp [isControl, hdelete] at h
    simp [isPlainChar, hlow, hdelete]

theorem isLinesChar_of_isControl_eq_false {c : Char} (h : isControl c = false)
    (rest : List Char) : isLinesChar c rest := by
  by_cases hline : c = '\n'
  · simp [isLinesChar, hline]
  · simp [isLinesChar, isPlainChar_of_isControl_eq_false h hline]

/-- Control characters that have no letter are written with two hexadecimal digits. -/
theorem readEscape_control {c : Char} (h : c.toNat < 128) (rest : List Char) :
    readEscape (['u', '0', '0', Text.upperHexDigit (c.toNat / 16),
      Text.upperHexDigit (c.toNat % 16)] ++ rest) = some (c, rest) := by
  have hhigh : Text.hexValue? (Text.upperHexDigit (c.toNat / 16)) = some (c.toNat / 16) :=
    Text.hexValue?_upperHexDigit (by omega)
  have hlow : Text.hexValue? (Text.upperHexDigit (c.toNat % 16)) = some (c.toNat % 16) :=
    Text.hexValue?_upperHexDigit (by omega)
  have hzero : Text.hexValue? '0' = some 0 := rfl
  have hread : readHex 4 0 ('0' :: '0' :: Text.upperHexDigit (c.toNat / 16) ::
      Text.upperHexDigit (c.toNat % 16) :: rest) = some (c.toNat, rest) := by
    simp only [readHex, hzero, hhigh, hlow, Option.bind_eq_bind, Option.bind_some]
    rw [Nat.zero_add, Nat.div_add_mod']
  change readCode 4 ('0' :: '0' :: Text.upperHexDigit (c.toNat / 16) ::
      Text.upperHexDigit (c.toNat % 16) :: rest) = _
  have hvalid : c.toNat.isValidChar := c.valid
  simp only [readCode, hread, Option.bind_eq_bind, Option.bind_some, hvalid, if_true,
    Char.ofNat_toNat]

/-- A character is written as an escape that is read back, or as it is. -/
theorem writeChar_cases (lines : Bool) {c : Char} (hquote : c ≠ '"') :
    (∃ code, writeChar lines c = '\\' :: code ∧ ∀ rest,
      readEscape (code ++ rest) = some (c, rest) ∧ skipFoldedLine (code ++ rest) = none) ∨
    writeChar lines c = [c] ∧ c ≠ '\\' ∧ (isPlainChar c ∨ lines = true ∧ c = '\n') := by
  unfold writeChar
  split
  next hc => subst hc; exact .inl ⟨_, rfl, fun rest => ⟨rfl, rfl⟩⟩
  next hbackslash =>
  split
  next hc => subst hc; exact .inl ⟨_, rfl, fun rest => ⟨rfl, rfl⟩⟩
  next =>
  split
  next hc => subst hc; exact .inl ⟨_, rfl, fun rest => ⟨rfl, rfl⟩⟩
  next =>
  split
  next hc =>
    subst hc
    cases lines with
    | false => exact .inl ⟨_, rfl, fun rest => ⟨rfl, rfl⟩⟩
    | true => exact .inr ⟨rfl, hbackslash, .inr ⟨rfl, rfl⟩⟩
  next hline =>
  split
  next hc => subst hc; exact .inl ⟨_, rfl, fun rest => ⟨rfl, rfl⟩⟩
  next =>
  split
  next hc => subst hc; exact .inl ⟨_, rfl, fun rest => ⟨rfl, rfl⟩⟩
  next =>
  split
  next hcontrol =>
    have hlow : c.toNat < 128 := by
      simp only [isControl, Bool.or_eq_true, Bool.and_eq_true, decide_eq_true_eq] at hcontrol
      omega
    exact .inl ⟨_, rfl, fun rest => ⟨readEscape_control hlow rest, rfl⟩⟩
  next hcontrol =>
    have hplain := isPlainChar_of_isControl_eq_false (Bool.eq_false_iff.mpr hcontrol) hline
    exact .inr ⟨rfl, hbackslash, .inl hplain⟩

/-! ## One quote -/

theorem readBasic_backslash {fuel : Nat} {code rest content behind : List Char} {c : Char}
    (hcode : readEscape (code ++ rest) = some (c, rest))
    (h : readBasic fuel rest = some (content, behind)) :
    readBasic (fuel + 1) ('\\' :: code ++ rest) = some (c :: content, behind) := by
  change (readEscape (code ++ rest) >>= _) = _
  rw [hcode]
  change (readBasic fuel rest >>= _) = _
  rw [h]
  rfl

theorem readBasic_plain {fuel : Nat} {rest content behind : List Char} {c : Char}
    (hquote : c ≠ '"') (hbackslash : c ≠ '\\') (hplain : isPlainChar c)
    (h : readBasic fuel rest = some (content, behind)) :
    readBasic (fuel + 1) (c :: rest) = some (c :: content, behind) := by
  rw [readBasic, h, hplain]
  · rfl
  · exact hquote
  · exact hbackslash

theorem readBasic_writeBasic {text : List Char} {fuel : Nat} (h : text.length < fuel)
    (rest : List Char) (run : Nat) :
    readBasic fuel (writeBasic false run text ++ '"' :: rest) = some (text, rest) := by
  induction text generalizing fuel run with
  | nil =>
      cases fuel with
      | zero => cases h
      | succ fuel => rfl
  | cons c text ih =>
      cases fuel with
      | zero => cases h
      | succ fuel =>
          have hnext := ih (Nat.lt_of_succ_lt_succ h) 0
          rw [writeBasic]
          split
          next hquote =>
            subst hquote
            exact @readBasic_backslash _ ['"'] _ _ _ _ rfl hnext
          next hquote =>
            rw [List.append_assoc]
            rcases writeChar_cases false hquote with
              ⟨code, hwritten, hcode⟩ | ⟨hwritten, hbackslash, hplain⟩
            · rw [hwritten]
              exact readBasic_backslash (hcode _).1 hnext
            · rw [hwritten]
              exact readBasic_plain hquote hbackslash (by simpa using hplain) hnext

theorem readLiteral_append {text : List Char}
    (h : ∀ c ∈ text, c ≠ '\'' ∧ isPlainChar c) (rest : List Char) :
    readLiteral (text ++ '\'' :: rest) = some (text, rest) := by
  induction text with
  | nil => rfl
  | cons c text ih =>
      obtain ⟨⟨hquote, hplain⟩, htext⟩ := List.forall_mem_cons.mp h
      rw [List.cons_append, readLiteral, ih htext, hplain]
      · rfl
      · exact hquote

/-! ## Three quotes -/

/-- Up to two quotes behind the closing ones belong to the text. -/
theorem closeQuotes_replicate {quote : Char} {rest : List Char} (hrest : rest.head? ≠ some quote)
    {count : Nat} (hcount : count ≤ 2) :
    closeQuotes quote (List.replicate count quote ++ rest) =
      (List.replicate count quote, rest) := by
  match count, hcount with
  | 0, _ =>
      change closeQuotes quote rest = ([], rest)
      unfold closeQuotes
      split <;> simp_all
  | 1, _ =>
      cases rest with
      | nil => simp [closeQuotes]
      | cons c rest => simp_all [closeQuotes]
  | 2, _ => simp [closeQuotes]

/-- Quotes in front of three more are three with the others behind. -/
theorem replicate_append_quotes (quote : Char) (count : Nat) (rest : List Char) :
    List.replicate count quote ++ quote :: quote :: quote :: rest =
      quote :: quote :: quote :: (List.replicate count quote ++ rest) := by
  induction count with
  | zero => rfl
  | succ count ih => rw [List.replicate_succ, List.cons_append, ih, List.cons_append]

/-! ### Single quotes -/

theorem readLiteralLines_replicate {rest : List Char} (hrest : rest.head? ≠ some '\'')
    {count : Nat} (hcount : count ≤ 2) :
    readLiteralLines (List.replicate count '\'' ++ '\'' :: '\'' :: '\'' :: rest) =
      some (List.replicate count '\'', rest) := by
  rw [replicate_append_quotes, readLiteralLines, closeQuotes_replicate hrest hcount]

theorem readLiteralLines_char {c : Char} {rest content behind : List Char}
    (hopen : ∀ after, c :: rest ≠ '\'' :: '\'' :: '\'' :: after) (hc : isLinesChar c rest)
    (h : readLiteralLines rest = some (content, behind)) :
    readLiteralLines (c :: rest) = some (c :: content, behind) := by
  rw [readLiteralLines, h, hc]
  · rfl
  · rintro after rfl rfl
    exact hopen after rfl

theorem le_longestRun (quote : Char) (run : Nat) (text : List Char) :
    run ≤ longestRun quote run text := by
  induction text generalizing run with
  | nil => exact Nat.le_refl run
  | cons c text ih =>
      rw [longestRun]
      split
      · exact Nat.le_trans (Nat.le_succ run) (ih (run + 1))
      · exact Nat.le_max_left _ _

theorem longestRun_replicate (quote : Char) (run count : Nat) :
    longestRun quote run (List.replicate count quote) = run + count := by
  induction count generalizing run with
  | zero => rfl
  | succ count ih =>
      rw [List.replicate_succ, longestRun, if_pos rfl, ih]
      omega

/-- Three quotes are not the beginning of a text with no such run, whatever is behind it, unless
it consists of quotes. -/
theorem ne_quotes_of_longestRun_le {quote : Char} {run : Nat} {text : List Char}
    (h : longestRun quote run text ≤ 2) (hother : ∃ c ∈ text, c ≠ quote)
    (rest after : List Char) : text ++ rest ≠ quote :: quote :: quote :: after := by
  obtain ⟨c, hc, hne⟩ := hother
  match text, hc with
  | [first], hc =>
      rw [List.mem_singleton.mp hc] at hne
      simp [hne]
  | [first, second], hc =>
      rcases List.mem_cons.mp hc with rfl | hc
      · simp [hne]
      · rw [List.mem_singleton.mp hc] at hne
        simp [hne]
  | first :: second :: third :: text, _ =>
      intro heq
      injection heq with hfirst heq
      injection heq with hsecond heq
      injection heq with hthird heq
      rw [hfirst, hsecond, hthird] at h
      have hrun := le_longestRun quote (run + 1 + 1 + 1) text
      simp only [longestRun, if_true] at h
      omega

theorem readLiteralLines_append {text rest : List Char} (hrest : rest.head? ≠ some '\'')
    (htext : ∀ c ∈ text, isControl c = false) {run : Nat} (h : longestRun '\'' run text ≤ 2) :
    readLiteralLines (text ++ '\'' :: '\'' :: '\'' :: rest) = some (text, rest) := by
  induction text generalizing run with
  | nil => exact @readLiteralLines_replicate rest hrest 0 (by decide)
  | cons c text ih =>
      by_cases hother : ∃ other ∈ c :: text, other ≠ '\''
      · obtain ⟨hc, htext⟩ := List.forall_mem_cons.mp htext
        have hrun : ∃ run, longestRun '\'' run text ≤ 2 := by
          rw [longestRun] at h
          split at h
          · exact ⟨_, h⟩
          · exact ⟨_, Nat.le_trans (Nat.le_max_right _ _) h⟩
        obtain ⟨run, hrun⟩ := hrun
        exact readLiteralLines_char (ne_quotes_of_longestRun_le h hother _)
          (isLinesChar_of_isControl_eq_false hc _) (ih htext hrun)
      · -- Nothing but quotes is left, and there are no more than two of them.
        have hquotes : c :: text = List.replicate (c :: text).length '\'' := by
          refine List.eq_replicate_of_mem fun other hother' => ?_
          exact Decidable.byContradiction fun hne => hother ⟨other, hother', hne⟩
        have hcount : (c :: text).length ≤ 2 := by
          rw [hquotes, longestRun_replicate] at h
          omega
        rw [hquotes]
        exact readLiteralLines_replicate hrest hcount

/-! ### Double quotes -/

theorem readBasicLines_replicate {rest : List Char} (hrest : rest.head? ≠ some '"')
    {count : Nat} (hcount : count ≤ 2) (fuel : Nat) :
    readBasicLines (fuel + 1) (List.replicate count '"' ++ '"' :: '"' :: '"' :: rest) =
      some (List.replicate count '"', rest) := by
  rw [replicate_append_quotes, readBasicLines, closeQuotes_replicate hrest hcount]

theorem readBasicLines_backslash {fuel : Nat} {code rest content behind : List Char} {c : Char}
    (hcode : readEscape (code ++ rest) = some (c, rest))
    (hline : skipFoldedLine (code ++ rest) = none)
    (h : readBasicLines fuel rest = some (content, behind)) :
    readBasicLines (fuel + 1) ('\\' :: code ++ rest) = some (c :: content, behind) := by
  rw [List.cons_append, readBasicLines]
  simp only [hline, hcode, h, Option.bind_eq_bind, Option.bind_some]
  rfl

theorem readBasicLines_char {fuel : Nat} {c : Char} {rest content behind : List Char}
    (hopen : ∀ after, c :: rest ≠ '"' :: '"' :: '"' :: after) (hbackslash : c ≠ '\\')
    (hc : isLinesChar c rest) (h : readBasicLines fuel rest = some (content, behind)) :
    readBasicLines (fuel + 1) (c :: rest) = some (c :: content, behind) := by
  rw [readBasicLines, h, hc]
  · rfl
  · rintro after rfl rfl
    exact hopen after rfl
  · exact hbackslash

/-- What is written for a character does not begin with a quote, if the character is none or
enough quotes stand in front. -/
theorem head?_writeBasic_ne {lines : Bool} {run : Nat} {c : Char}
    (h : c ≠ '"' ∨ (if lines then 2 else 0) ≤ run) (text rest : List Char) :
    (writeBasic lines run (c :: text) ++ rest).head? ≠ some '"' := by
  rw [writeBasic]
  split
  next hquote =>
    rw [if_neg (Nat.not_lt.mpr (h.resolve_left (not_not_intro hquote)))]
    simp
  next hquote =>
    rcases writeChar_cases lines hquote with ⟨code, hwritten, -⟩ | ⟨hwritten, -, -⟩
    · simp [hwritten]
    · simp [hwritten, hquote]

/-- Two quotes behind another one close the text, unless they are too many to stand there. -/
theorem writeBasic_append_eq_quotes {run : Nat} {text rest after : List Char}
    (h : writeBasic true (run + 1) text ++ '"' :: '"' :: '"' :: rest = '"' :: '"' :: after) :
    text = [] ∨ text = ['"'] ∧ run = 0 := by
  have hhead := congrArg List.head? h
  cases text with
  | nil => exact .inl rfl
  | cons c text =>
      by_cases hc : c ≠ '"' ∨ 2 ≤ run + 1
      · exact absurd hhead (head?_writeBasic_ne hc text _)
      · rw [not_or, Decidable.not_not] at hc
        obtain ⟨rfl, hrun⟩ := hc
        have hzero : run = 0 := by omega
        subst hzero
        rw [writeBasic, if_pos rfl, if_pos (by decide), List.cons_append] at h
        injection h with _ h
        have hhead := congrArg List.head? h
        cases text with
        | nil => exact .inr ⟨rfl, rfl⟩
        | cons d text => exact absurd hhead (head?_writeBasic_ne (.inr (by decide)) text _)

theorem readBasicLines_writeBasic {text rest : List Char} (hrest : rest.head? ≠ some '"')
    {fuel : Nat} (h : text.length < fuel) (run : Nat) :
    readBasicLines fuel (writeBasic true run text ++ '"' :: '"' :: '"' :: rest) =
      some (text, rest) := by
  induction text generalizing fuel run with
  | nil =>
      cases fuel with
      | zero => cases h
      | succ fuel => exact @readBasicLines_replicate rest hrest 0 (by decide) fuel
  | cons c text ih =>
      cases fuel with
      | zero => cases h
      | succ fuel =>
          have hnext := fun run => ih (Nat.lt_of_succ_lt_succ h) run
          rw [writeBasic]
          split
          next hquote =>
            subst hquote
            simp only [if_true]
            by_cases hrun : run < 2
            · rw [if_pos hrun]
              -- Quotes at the end of the text are read only with the closing ones behind them.
              by_cases hclosing : text = [] ∨ text = ['"'] ∧ run = 0
              · rcases hclosing with rfl | ⟨rfl, rfl⟩
                · exact @readBasicLines_replicate rest hrest 1 (by decide) fuel
                · exact @readBasicLines_replicate rest hrest 2 (by decide) fuel
              · refine readBasicLines_char ?_ ?_ rfl (hnext (run + 1))
                · intro after heq
                  injection heq with _ heq
                  exact hclosing (writeBasic_append_eq_quotes heq)
                · decide
            · rw [if_neg hrun]
              exact @readBasicLines_backslash _ ['"'] _ _ _ _ rfl rfl (hnext 0)
          next hquote =>
            rw [List.append_assoc]
            rcases writeChar_cases true hquote with
              ⟨code, hwritten, hcode⟩ | ⟨hwritten, hbackslash, hplain⟩
            · rw [hwritten]
              exact readBasicLines_backslash (hcode _).1 (hcode _).2 (hnext 0)
            · rw [hwritten]
              refine readBasicLines_char ?_ hbackslash ?_ (hnext 0)
              · rintro after heq
                injection heq with hc
                exact hquote hc
              · rcases hplain with hplain | ⟨-, rfl⟩
                · simp [isLinesChar, hplain]
                · simp [isLinesChar]

/-! ## The way a text is quoted -/

theorem length_le_writeBasic (lines : Bool) (run : Nat) (text : List Char) :
    text.length ≤ (writeBasic lines run text).length := by
  induction text generalizing run with
  | nil => exact Nat.zero_le _
  | cons c text ih =>
      have hquoted := ih (run + 1)
      have hplain := ih 0
      rw [writeBasic]
      split
      next =>
        by_cases hrun : run < (if lines then 2 else 0)
        · rw [if_pos hrun, List.length_cons, List.length_cons]
          omega
        · rw [if_neg hrun, List.length_cons, List.length_cons, List.length_cons]
          omega
      next hquote =>
        rcases writeChar_cases lines hquote with ⟨code, hwritten, -⟩ | ⟨hwritten, -, -⟩
        · simp only [hwritten, List.length_append, List.length_cons]
          omega
        · simp only [hwritten, List.length_append, List.length_cons]
          omega

/-- What is written for a text that is quoted in this way. -/
def Quoting.written (text : List Char) (quoting : Quoting) : List Char :=
  quoting.marks ++ quoting.lead text ++ quoting.content text ++ quoting.marks

/-- Single quotes are chosen for a text that can stand between them as it is. -/
theorem Quoting.keepsAsIs_of (text : List Char) :
    (Quoting.of text).keepsAsIs text ∨ Quoting.of text = .basic ∨ Quoting.of text = .basicLines := by
  unfold Quoting.of
  cases hfind : ([.basic, .literal, .basicLines, .literalLines] : List Quoting).find?
      (·.keepsAsIs text) with
  | none =>
      rw [Option.getD_none]
      split
      · exact .inr (.inr rfl)
      · exact .inr (.inl rfl)
  | some quoting => exact .inl (List.find?_some hfind)

/-- What stands in front of a text of several lines is skipped. -/
theorem skipLineBreak_lead {text content : List Char}
    (h : '\n' ∉ text → content.head? ≠ some '\n' ∧ content.head? ≠ some '\r') :
    skipLineBreak ((if text.contains '\n' then ['\n'] else []) ++ content) = content := by
  by_cases hline : '\n' ∈ text
  · rw [if_pos (List.contains_iff_mem.mpr hline)]
    rfl
  · obtain ⟨hfeed, hreturn⟩ := h hline
    rw [if_neg (fun hcontains => hline (List.contains_iff_mem.mp hcontains)), List.nil_append]
    unfold skipLineBreak
    split <;> simp_all

theorem readText?_basic {text : List Char} (h : ∀ after, text ≠ '"' :: '"' :: after) :
    readText? ('"' :: text) = some (readBasic (text.length + 1) text) := by
  unfold readText?
  split <;> simp_all

theorem readText?_literal {text : List Char} (h : ∀ after, text ≠ '\'' :: '\'' :: after) :
    readText? ('\'' :: text) = some (readLiteral text) := by
  unfold readText?
  split <;> simp_all

/-- What is written between double quotes begins no line, if the text holds no line feed. -/
theorem head?_writeBasic_of_not_mem {text : List Char} (h : '\n' ∉ text) (rest : List Char) :
    (writeBasic true 0 text ++ '"' :: rest).head? ≠ some '\n' ∧
      (writeBasic true 0 text ++ '"' :: rest).head? ≠ some '\r' := by
  cases text with
  | nil => simp [writeBasic]
  | cons c text =>
      have hline : c ≠ '\n' := fun hc => h (hc ▸ List.mem_cons_self)
      rw [writeBasic]
      split
      next hquote => simp [hquote]
      next hquote =>
        rcases writeChar_cases true hquote with ⟨code, hwritten, -⟩ | ⟨hwritten, -, hplain⟩
        · simp [hwritten]
        · have hreturn : c ≠ '\r' := by
            rintro rfl
            simp [isPlainChar] at hplain
          simp [hwritten, hline, hreturn]

section Ways

variable (text : List Char) {rest : List Char}

theorem readText?_written_basic (hrest : rest.head? ≠ some '"') :
    readText? (Quoting.basic.written text ++ rest) = some (some (text, rest)) := by
  simp only [Quoting.written, Quoting.marks, Quoting.lead, Quoting.content, List.append_nil,
    List.append_assoc, List.cons_append, List.nil_append]
  rw [readText?_basic, readBasic_writeBasic]
  · have hlength := length_le_writeBasic false 0 text
    rw [List.length_append]
    omega
  · intro after heq
    have hhead := congrArg List.head? heq
    cases text with
    | nil =>
        injection heq with _ heq
        exact hrest (congrArg List.head? heq)
    | cons c text => exact head?_writeBasic_ne (.inr (by decide)) text _ hhead

theorem readText?_written_basicLines (hrest : rest.head? ≠ some '"') :
    readText? (Quoting.basicLines.written text ++ rest) = some (some (text, rest)) := by
  simp only [Quoting.written, Quoting.marks, Quoting.lead, Quoting.content, List.append_assoc,
    List.cons_append, List.nil_append]
  rw [readText?, skipLineBreak_lead, readBasicLines_writeBasic hrest]
  · have hlength := length_le_writeBasic true 0 text
    rw [List.length_append, List.length_append]
    omega
  · exact fun hline => head?_writeBasic_of_not_mem hline _

theorem readText?_written_literal (h : Quoting.literal.keepsAsIs text)
    (hrest : rest.head? ≠ some '\'') :
    readText? (Quoting.literal.written text ++ rest) = some (some (text, rest)) := by
  have htext : ∀ c ∈ text, c ≠ '\'' ∧ isPlainChar c := by
    simp only [Quoting.keepsAsIs, Bool.and_eq_true, Bool.not_eq_true', List.any_eq_false,
      List.contains_eq_mem, decide_eq_false_iff_not] at h
    obtain ⟨⟨hcontrol, hquote⟩, hline⟩ := h
    intro c hc
    refine ⟨fun heq => hquote (heq ▸ hc), isPlainChar_of_isControl_eq_false ?_ ?_⟩
    · exact Bool.eq_false_iff.mpr (hcontrol c hc)
    · exact fun heq => hline (heq ▸ hc)
  simp only [Quoting.written, Quoting.marks, Quoting.lead, Quoting.content, List.append_nil,
    List.append_assoc, List.cons_append, List.nil_append]
  rw [readText?_literal, readLiteral_append htext]
  intro after heq
  have hhead := congrArg List.head? heq
  cases text with
  | nil =>
      injection heq with _ heq
      exact hrest (congrArg List.head? heq)
  | cons c text =>
      injection hhead with hc
      exact (htext c List.mem_cons_self).1 hc

theorem readText?_written_literalLines (h : Quoting.literalLines.keepsAsIs text)
    (hrest : rest.head? ≠ some '\'') :
    readText? (Quoting.literalLines.written text ++ rest) = some (some (text, rest)) := by
  simp only [Quoting.keepsAsIs, Bool.and_eq_true, Bool.not_eq_true', List.any_eq_false,
    decide_eq_true_eq, Bool.not_eq_true] at h
  obtain ⟨hcontrol, hruns⟩ := h
  simp only [Quoting.written, Quoting.marks, Quoting.lead, Quoting.content, List.append_assoc,
    List.cons_append, List.nil_append]
  rw [readText?, skipLineBreak_lead, readLiteralLines_append hrest hcontrol hruns]
  intro hline
  cases text with
  | nil => exact ⟨by simp, by simp⟩
  | cons c text =>
      have hc := hcontrol c List.mem_cons_self
      refine ⟨?_, ?_⟩
      · rintro ⟨⟩
        exact hline List.mem_cons_self
      · rintro ⟨⟩
        cases hc

/-- A written text is read back, with what stands behind it. -/
theorem readText?_writeText (hdouble : rest.head? ≠ some '"') (hsingle : rest.head? ≠ some '\'') :
    readText? (writeText text ++ rest) = some (some (text, rest)) := by
  have hkeeps := Quoting.keepsAsIs_of text
  change readText? ((Quoting.of text).written text ++ rest) = _
  cases hquoting : Quoting.of text with
  | basic => exact readText?_written_basic text hdouble
  | literal =>
      rw [hquoting] at hkeeps
      exact readText?_written_literal text (hkeeps.resolve_right (by decide)) hsingle
  | basicLines => exact readText?_written_basicLines text hdouble
  | literalLines =>
      rw [hquoting] at hkeeps
      exact readText?_written_literalLines text (hkeeps.resolve_right (by decide)) hsingle

end Ways

end Suppression.Toml
