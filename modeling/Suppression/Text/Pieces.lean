/-!
# Cutting a text into pieces

A text is cut at every character of a class, which leaves one piece more than there
are such characters, pieces that are empty included. Dropping all but the last of
neighbouring separators first cuts at whole runs of them.
-/

namespace Suppression.Text

/-- Put a character in front of the first piece. -/
def consFirst (c : Char) : List (List Char) → List (List Char)
  | [] => [[c]]
  | piece :: rest => (c :: piece) :: rest

/-- The pieces of a text between the characters that satisfy `separates`. -/
def pieces (separates : Char → Bool) (text : List Char) : List (List Char) :=
  text.foldr (fun c rest => if separates c then [] :: rest else consFirst c rest) [[]]

/-- Keep one separator of every run of separators. -/
def squeeze (separates : Char → Bool) (text : List Char) : List Char :=
  text.foldr (fun c rest => if separates c && rest.head?.any separates then rest else c :: rest) []

/-- The text without its last character, if that is `c`. -/
def dropFinal (c : Char) (text : List Char) : List Char :=
  if text.getLast? = some c then text.dropLast else text

@[simp] theorem pieces_nil (separates : Char → Bool) : pieces separates [] = [[]] := rfl

theorem pieces_cons (separates : Char → Bool) (c : Char) (text : List Char) :
    pieces separates (c :: text) =
      if separates c then [] :: pieces separates text else consFirst c (pieces separates text) :=
  rfl

theorem pieces_ne_nil (separates : Char → Bool) (text : List Char) :
    pieces separates text ≠ [] := by
  induction text with
  | nil => simp
  | cons c text ih =>
      rw [pieces_cons]
      split
      · simp
      · cases hpieces : pieces separates text with
        | nil => exact absurd hpieces ih
        | cons piece rest => simp [consFirst]

/-- A text without separators is one piece. -/
theorem pieces_eq_singleton {separates : Char → Bool} {text : List Char}
    (h : ∀ c ∈ text, separates c = false) : pieces separates text = [text] := by
  induction text with
  | nil => rfl
  | cons c text ih =>
      have hhead : separates c = false := h c (List.mem_cons_self ..)
      have htail := ih fun d hd => h d (List.mem_cons_of_mem _ hd)
      rw [pieces_cons, hhead, htail]
      rfl

/-- No piece holds a separator. -/
theorem separates_eq_false_of_mem_pieces {separates : Char → Bool} {text piece : List Char}
    (hpiece : piece ∈ pieces separates text) {c : Char} (hc : c ∈ piece) :
    separates c = false := by
  induction text generalizing piece with
  | nil =>
      rw [pieces_nil, List.mem_singleton] at hpiece
      rw [hpiece] at hc
      exact absurd hc List.not_mem_nil
  | cons d text ih =>
      rw [pieces_cons] at hpiece
      split at hpiece
      next =>
        rcases List.mem_cons.mp hpiece with rfl | hrest
        · exact absurd hc List.not_mem_nil
        · exact ih hrest hc
      next hsep =>
        cases hpieces : pieces separates text with
        | nil => exact absurd hpieces (pieces_ne_nil separates text)
        | cons first rest =>
            rw [hpieces] at hpiece ih
            rcases List.mem_cons.mp hpiece with rfl | hrest
            · rcases List.mem_cons.mp hc with rfl | hfirst
              · exact Bool.eq_false_iff.mpr hsep
              · exact ih (List.mem_cons_self ..) hfirst
            · exact ih (List.mem_cons_of_mem _ hrest) hc

@[simp] theorem squeeze_nil (separates : Char → Bool) : squeeze separates [] = [] := rfl

theorem squeeze_cons (separates : Char → Bool) (c : Char) (text : List Char) :
    squeeze separates (c :: text) =
      if separates c && (squeeze separates text).head?.any separates then squeeze separates text
      else c :: squeeze separates text :=
  rfl

end Suppression.Text
