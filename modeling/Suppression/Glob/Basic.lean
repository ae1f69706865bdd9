import Suppression.Text.Pieces
import Suppression.Glob.Table

/-!
# Globs

A glob is a text of components between slashes. A component `**` stands for any number
of whole parts of a candidate; every other component is matched against one part,
character by character: `*` takes any characters, `?` takes one, and a backslash takes
the character after it as it is.

Candidates are cut at runs of slashes and backslashes. One final slash is ignored on
both sides. A glob with a pair of stars that is glued to other characters is refused.
-/

namespace Suppression

namespace Glob

/-- A unit of a component. -/
inductive Token where
  /-- Any characters, possibly none. -/
  | star
  /-- Exactly one character. -/
  | anyChar
  /-- Exactly this character. -/
  | literal (c : Char)
  /-- A backslash with nothing after it, which takes nothing. -/
  | danglingEscape
  deriving DecidableEq, Repr

/-- The tokens of one component. -/
def tokens : List Char → List Token
  | [] => []
  | ['\\'] => [.danglingEscape]
  | '\\' :: c :: text => .literal c :: tokens text
  | '*' :: text => .star :: tokens text
  | '?' :: text => .anyChar :: tokens text
  | c :: text => .literal c :: tokens text

/-- How tokens take characters. -/
def tokenRules : Rules Token Char where
  spans token := token = .star
  accepts
    | .anyChar, _ => true
    | .literal c, input => c = input
    | .star, _ => false
    | .danglingEscape, _ => false

/-- What stands between two slashes of a glob. -/
inductive Component where
  /-- `**`: any number of whole parts. -/
  | recursive
  /-- Any other component: one part. -/
  | segment (tokens : List Token)
  deriving DecidableEq, Repr

/-- The component with this text. -/
def Component.ofText (text : List Char) : Component :=
  if text = ['*', '*'] then .recursive else .segment (tokens text)

/-- How components take the parts of a candidate. -/
def componentRules : Rules Component (List Char) where
  spans component := component = .recursive
  accepts
    | .recursive, _ => false
    | .segment tokens, part => tokenRules.run tokens part

/-- The components of a glob, as they are written. -/
def writtenComponents (text : List Char) : List Component :=
  (Text.pieces (· = '/') (Text.dropFinal '/' text)).map Component.ofText

/-- One `**` in place of each run of them. -/
def collapse (components : List Component) : List Component :=
  components.foldr
    (fun component rest =>
      if component = .recursive ∧ rest.head? = some .recursive then rest else component :: rest)
    []

/-- Two stars come next. -/
def starsAhead : List Char → Bool
  | '*' :: '*' :: _ => true
  | _ => false

/-- Two stars come next, and after them something other than a slash. -/
def gluedStarsAhead : List Char → Bool
  | '*' :: '*' :: c :: _ => c ≠ '/'
  | _ => false

/-- Some character and the text behind it satisfy `test`. -/
def anyAfter (test : Char → List Char → Bool) : List Char → Bool
  | [] => false
  | c :: text => test c text || anyAfter test text

/-- A pair of stars is glued to something that is neither a slash nor the end of the text.
A backslash in front shields the pair. -/
def hasGluedStars (text : List Char) : Bool :=
  gluedStarsAhead text ||
    anyAfter
      (fun c rest =>
        (c ≠ '/' && c ≠ '\\' && starsAhead rest) || (c ≠ '\\' && gluedStarsAhead rest))
      text

/-- A candidate is cut here. -/
def isSeparator (c : Char) : Bool :=
  c = '/' || c = '\\'

/-- The parts of a candidate. -/
def parts (candidate : List Char) : List (List Char) :=
  Text.pieces isSeparator (Text.squeeze isSeparator (Text.dropFinal '/' candidate))

end Glob

/-- A glob that can be matched. -/
structure Glob where
  /-- The text of the glob, as it was given. -/
  source : String
  /-- No pair of stars is glued to anything. -/
  wellFormed : Glob.hasGluedStars source.toList = false
  /-- The components to match with. -/
  components : List Glob.Component
  /-- The components are those of the text. -/
  components_eq : components = Glob.collapse (Glob.writtenComponents source.toList)
  deriving DecidableEq

namespace Glob

/-- A text that is no glob: a pair of stars in it is not alone between slashes. -/
structure GluedStars where
  /-- The refused text. -/
  glob : String
  deriving DecidableEq, Repr

/-- The message for the user. -/
def GluedStars.message (error : GluedStars) : String :=
  "`**` in " ++ error.glob ++ " not alone between path separators"

/-- The glob with this text. -/
def parse (text : String) : Except GluedStars Glob :=
  if h : hasGluedStars text.toList = false then
    .ok ⟨text, h, collapse (writtenComponents text.toList), rfl⟩
  else
    .error ⟨text⟩

/-- The glob matches the candidate. -/
def accepts (glob : Glob) (candidate : String) : Bool :=
  componentRules.run glob.components (parts candidate.toList)

theorem parse_of_wellFormed {text : String} (h : hasGluedStars text.toList = false) :
    parse text = .ok ⟨text, h, collapse (writtenComponents text.toList), rfl⟩ :=
  dif_pos h

theorem source_of_parse {text : String} {glob : Glob} (h : parse text = .ok glob) :
    glob.source = text := by
  unfold parse at h
  split at h
  · cases h
    rfl
  · cases h

theorem parse_eq_error_iff {text : String} {error : GluedStars} :
    parse text = .error error ↔ hasGluedStars text.toList = true ∧ error = ⟨text⟩ := by
  unfold parse
  split
  next h => simp [h]
  next h => simp [Bool.not_eq_false] at h; simp [h, eq_comm]

/-- A glob is settled by its text. -/
theorem ext_source {left right : Glob} (h : left.source = right.source) : left = right := by
  obtain ⟨text, _, _, hleft⟩ := left
  obtain ⟨text', _, _, hright⟩ := right
  subst h hleft hright
  rfl

end Glob

end Suppression
