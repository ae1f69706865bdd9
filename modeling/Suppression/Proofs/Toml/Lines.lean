import Suppression.Proofs.Toml.Numerals
import Suppression.Proofs.Toml.Quoted
import Suppression.Toml.Reader

/-!
# Lines of a settings file

Headers and fields with bare names are read line by line. What stands behind a line has no
influence on it.
-/

namespace Suppression.Toml

/-- A name that stands without quotes, behind which it does not go on. -/
structure BareName (name : List Char) : Prop where
  ne_nil : name ≠ []
  bare : name.all isBareKeyChar

theorem skipSpaces_of_head? {text : List Char} (hspace : text.head? ≠ some ' ')
    (htab : text.head? ≠ some '\t') : skipSpaces text = text := by
  cases text with
  | nil => rfl
  | cons c text =>
      rw [skipSpaces, List.dropWhile_cons_of_neg]
      simp_all

section Keys

variable {name rest : List Char}

theorem BareName.head?_ne (h : BareName name) {c : Char} (hc : isBareKeyChar c = false)
    (rest : List Char) : (name ++ rest).head? ≠ some c := by
  cases name with
  | nil => exact absurd rfl h.ne_nil
  | cons d name =>
      rintro ⟨⟩
      rw [List.all_eq_true.mp h.bare c List.mem_cons_self] at hc
      cases hc

theorem BareName.skipSpaces_append (h : BareName name) (rest : List Char) :
    skipSpaces (name ++ rest) = name ++ rest :=
  skipSpaces_of_head? (h.head?_ne rfl rest) (h.head?_ne rfl rest)

theorem readName_append (h : BareName name) (hrest : rest.head?.any isBareKeyChar = false) :
    readName (name ++ rest) = some (String.ofList name, rest) := by
  have htake : (name ++ rest).takeWhile isBareKeyChar = name := by
    rw [List.takeWhile_append_of_pos (List.all_eq_true.mp h.bare)]
    cases rest with
    | nil => rw [List.takeWhile_nil, List.append_nil]
    | cons c rest =>
        rw [List.takeWhile_cons_of_neg (by simpa using hrest), List.append_nil]
  have hdouble := h.head?_ne (c := '"') rfl rest
  have hsingle := h.head?_ne (c := '\'') rfl rest
  unfold readName
  split
  next heq => rw [heq] at hdouble; exact absurd rfl hdouble
  next heq => rw [heq] at hsingle; exact absurd rfl hsingle
  next => simp only [htake, if_neg h.ne_nil, List.drop_left]

/-- A bare name is a key by itself. -/
theorem readKey_append (h : BareName name) (hrest : rest.head?.any isBareKeyChar = false)
    (hdot : (skipSpaces rest).head? ≠ some '.') :
    readKey (name ++ rest) = some ([String.ofList name], skipSpaces rest) := by
  rw [readKey, readNames, h.skipSpaces_append, readName_append h hrest]
  rw [Option.bind_eq_bind, Option.bind_some]
  dsimp only
  split
  next heq => rw [heq] at hdot; exact absurd rfl hdot
  next => rfl

end Keys

/-! ## Values -/

theorem head?_writeText (text : List Char) (rest : List Char) :
    (writeText text ++ rest).head? = some '"' ∨ (writeText text ++ rest).head? = some '\'' := by
  unfold writeText
  cases Quoting.of text with
  | basic => exact .inl rfl
  | literal => exact .inr rfl
  | basicLines => exact .inl rfl
  | literalLines => exact .inr rfl

theorem readSpelling_writeText (depth : Nat) (text rest : List Char) :
    readSpelling depth (writeText text ++ '\n' :: rest) =
      some (.text (String.ofList text), '\n' :: rest) := by
  have hread := @readText?_writeText text ('\n' :: rest) (by simp) (by simp)
  have hhead := head?_writeText text ('\n' :: rest)
  unfold readSpelling
  split
  next heq => simp [heq] at hhead
  next heq => simp [heq] at hhead
  next =>
    rw [hread]
    rfl

theorem readSpelling_digits (depth : Nat) {digits : List Char} (hne : digits ≠ [])
    (h : ∀ c ∈ digits, c.isDigit) (rest : List Char) :
    readSpelling depth (digits ++ '\n' :: rest) = some (.bare digits, '\n' :: rest) := by
  obtain ⟨c, more, rfl⟩ := List.exists_cons_of_ne_nil hne
  have hc := h c List.mem_cons_self
  -- The first digit alone rules out quotes and brackets.
  have hstart : ∀ d after, d.isDigit = false → c :: more ++ '\n' :: rest ≠ d :: after := by
    intro d after hd heq
    injection heq with hfirst _
    rw [hfirst, hd] at hc
    cases hc
  have htext : readText? (c :: more ++ '\n' :: rest) = none := by
    unfold readText?
    split
    next heq => exact absurd heq (hstart _ _ rfl)
    next heq => exact absurd heq (hstart _ _ rfl)
    next heq => exact absurd heq (hstart _ _ rfl)
    next heq => exact absurd heq (hstart _ _ rfl)
    next => rfl
  unfold readSpelling
  split
  next heq => exact absurd heq (hstart _ _ rfl)
  next heq => exact absurd heq (hstart _ _ rfl)
  next => simp only [htext, takeBare_digits h]

/-! ## Lines -/

theorem readLine_header {name : List Char} (h : BareName name) (rest : List Char) :
    readLine ('[' :: (name ++ ']' :: '\n' :: rest)) =
      some (.table [String.ofList name], rest) := by
  have hkey := @readKey_append name (']' :: '\n' :: rest) h rfl (by simp [skipSpaces])
  have hopen := h.head?_ne (c := '[') rfl (']' :: '\n' :: rest)
  have hheader : readHeader (name ++ ']' :: '\n' :: rest) =
      some (.table [String.ofList name], '\n' :: rest) := by
    unfold readHeader
    split
    next heq => rw [heq] at hopen; exact absurd rfl hopen
    next =>
      rw [hkey]
      rfl
  change (readHeader (name ++ ']' :: '\n' :: rest) >>= _) = _
  rw [hheader]
  rfl

theorem readLine_field {name value rest : List Char} {spelling : Spelling} (h : BareName name)
    (hspace : value.head? ≠ some ' ') (htab : value.head? ≠ some '\t') (hne : value ≠ [])
    (hvalue : readSpelling depthLimit (value ++ '\n' :: rest) = some (spelling, '\n' :: rest)) :
    readLine (name ++ ' ' :: '=' :: ' ' :: (value ++ '\n' :: rest)) =
      some (.field [String.ofList name] spelling, rest) := by
  have hkey := @readKey_append name (' ' :: '=' :: ' ' :: (value ++ '\n' :: rest)) h rfl
    (by simp [skipSpaces])
  have hskip : skipSpaces (' ' :: (value ++ '\n' :: rest)) = value ++ '\n' :: rest := by
    change skipSpaces (value ++ '\n' :: rest) = _
    obtain ⟨c, more, rfl⟩ := List.exists_cons_of_ne_nil hne
    exact skipSpaces_of_head? hspace htab
  have hfield : readField (readSpelling depthLimit) (some ∘ skipSpaces)
      (name ++ ' ' :: '=' :: ' ' :: (value ++ '\n' :: rest)) =
        some (([String.ofList name], spelling), '\n' :: rest) := by
    rw [readField, hkey]
    change (some (skipSpaces (' ' :: (value ++ '\n' :: rest))) >>= fun text =>
      readSpelling depthLimit text >>= _) = _
    rw [hskip, Option.bind_eq_bind, Option.bind_some, hvalue]
    rfl
  have hstatement : readStatement (name ++ ' ' :: '=' :: ' ' :: (value ++ '\n' :: rest)) =
      some (.field [String.ofList name] spelling, '\n' :: rest) := by
    rw [readStatement, h.skipSpaces_append]
    split
    next heq => exact absurd (congrArg List.length heq) (by simp)
    next heq => exact absurd (congrArg List.head? heq) (h.head?_ne rfl _)
    next c more _ heq =>
      have hplain : ¬ (c = '#' ∨ c = '\n' ∨ c = '\r') := by
        rintro (rfl | rfl | rfl)
        · exact h.head?_ne rfl _ (congrArg List.head? heq)
        · exact h.head?_ne rfl _ (congrArg List.head? heq)
        · exact h.head?_ne rfl _ (congrArg List.head? heq)
      rw [if_neg hplain, ← heq, hfield]
      rfl
  rw [readLine, hstatement]
  rfl

/-- These lines are read from a text. -/
def LinesOf (lines : List Line) (text : List Char) : Prop :=
  ∀ fuel, text.length < fuel → readLines fuel text = some lines

theorem linesOf_nil : LinesOf [] [] := by
  intro fuel hfuel
  cases fuel with
  | zero => cases hfuel
  | succ fuel => rfl

theorem LinesOf.cons {line : Line} {lines : List Line} {text rest : List Char}
    (hread : readLine text = some (line, rest)) (hlength : rest.length < text.length)
    (h : LinesOf lines rest) : LinesOf (line :: lines) text := by
  intro fuel hfuel
  cases fuel with
  | zero => cases hfuel
  | succ fuel =>
      have hrest := h fuel (by omega)
      cases text with
      | nil => cases hlength
      | cons c text =>
          rw [readLines, hread]
          rw [Option.bind_eq_bind, Option.bind_some]
          dsimp only
          · rw [hrest]
            rfl
          · exact List.cons_ne_nil c text

/-- The line of a field, with what stands behind it. -/
def fieldText (name : String) (value rest : List Char) : List Char :=
  name.toList ++ ' ' :: '=' :: ' ' :: (value ++ '\n' :: rest)

/-- The line of a header, with what stands behind it. -/
def headerText (name : String) (rest : List Char) : List Char :=
  '[' :: (name.toList ++ ']' :: '\n' :: rest)

section LinesOf

variable {lines : List Line} {rest : List Char}

theorem linesOf_header {name : String} (hname : BareName name.toList)
    (h : LinesOf lines rest) : LinesOf (.table [name] :: lines) (headerText name rest) := by
  have hread := readLine_header hname rest
  rw [String.ofList_toList] at hread
  refine h.cons hread ?_
  rw [headerText]
  simp only [List.length_cons, List.length_append]
  omega

theorem linesOf_field {name : String} {value : List Char} {spelling : Spelling}
    (hname : BareName name.toList)
    (hvalue : value ≠ [] ∧ value.head? ≠ some ' ' ∧ value.head? ≠ some '\t')
    (hread : readSpelling depthLimit (value ++ '\n' :: rest) =
      some (spelling, '\n' :: rest))
    (h : LinesOf lines rest) :
    LinesOf (.field [name] spelling :: lines) (fieldText name value rest) := by
  have hline := readLine_field hname hvalue.2.1 hvalue.2.2 hvalue.1 hread
  rw [String.ofList_toList] at hline
  refine h.cons hline ?_
  rw [fieldText]
  simp only [List.length_cons, List.length_append]
  omega

theorem linesOf_text {name : String} (hname : BareName name.toList) (text : String)
    (h : LinesOf lines rest) :
    LinesOf (.field [name] (.text text) :: lines)
      (fieldText name (writeText text.toList) rest) := by
  have hread := readSpelling_writeText depthLimit text.toList rest
  rw [String.ofList_toList] at hread
  refine linesOf_field hname ?_ hread h
  have hhead := head?_writeText text.toList []
  rw [List.append_nil] at hhead
  refine ⟨?_, ?_, ?_⟩
  · intro hnil
    simp [hnil] at hhead
  · intro hspace
    simp [hspace] at hhead
  · intro htab
    simp [htab] at hhead

end LinesOf

end Suppression.Toml
