import Suppression.Text.Blank
import Suppression.Text.Pieces

/-!
# The words of a filter

A filter is a text of expressions with blanks between them. A backslash belongs to the
character behind it, so a blank behind it does not separate. The words keep their
backslashes.
-/

namespace Suppression.Filter

/-- The pieces of a filter between the blanks that no backslash shields. -/
def cutAtBlanks : List Char → List (List Char)
  | [] => [[]]
  | '\\' :: c :: text => Text.consFirst '\\' (Text.consFirst c (cutAtBlanks text))
  | c :: text =>
      if Text.isBlank c then [] :: cutAtBlanks text else Text.consFirst c (cutAtBlanks text)

/-- The expressions of a filter: the pieces that hold something. -/
def words (filter : String) : List String :=
  ((cutAtBlanks filter.toList).filter (· ≠ [])).map String.ofList

end Suppression.Filter
