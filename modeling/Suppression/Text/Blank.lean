/-!
# Blank characters

Expressions of a filter are set apart by blanks. A character is blank when it has
the Unicode property `White_Space`, which is wider than the ASCII blanks.
-/

namespace Suppression.Text

/-- The ranges of code points with the property `White_Space`, in ascending order. -/
def blankRanges : List (Nat × Nat) :=
  [(0x0009, 0x000D), (0x0020, 0x0020), (0x0085, 0x0085), (0x00A0, 0x00A0),
   (0x1680, 0x1680), (0x2000, 0x200A), (0x2028, 0x2029), (0x202F, 0x202F),
   (0x205F, 0x205F), (0x3000, 0x3000)]

/-- The character separates words. -/
def isBlank (c : Char) : Bool :=
  blankRanges.any fun (low, high) => low ≤ c.toNat && c.toNat ≤ high

/-- The text without the blanks at its ends. -/
def trim (text : List Char) : List Char :=
  ((text.dropWhile isBlank).reverse.dropWhile isBlank).reverse

/-- The property holds of twenty-five code points. -/
example : (blankRanges.map fun (low, high) => high + 1 - low).sum = 25 := by decide

end Suppression.Text
