/-!
# Matching with spanning items

A pattern is a list of items. An item either *spans*, and then takes any number of
neighbouring inputs, or it takes exactly one input that it accepts. Globs use this
twice: for components against the parts of a path, and for tokens against the
characters of a part.

Matching fills a table from the last item back to the first. The row of an item
holds one cell for each suffix of the input, so the work is bounded by the product
of the two lengths.
-/

namespace Suppression.Glob

/-- How the items of a pattern take inputs. -/
structure Rules (Item Input : Type) where
  /-- The item takes any number of inputs. -/
  spans : Item → Bool
  /-- An item that does not span takes this input. -/
  accepts : Item → Input → Bool

namespace Rules

variable {Item Input : Type} (rules : Rules Item Input)

/-- The row below the last item: only the empty input is left to match. -/
def lastRow (inputs : List Input) : List Bool :=
  inputs.foldr (fun _ row => false :: row) [true]

/-- The row of `item`, from the row `below` of the items after it. Once the input is
used up, an item matches only if it spans and is the last one. -/
def row (item : Item) (isLast : Bool) (inputs : List Input) (below : List Bool) : List Bool :=
  (inputs.zip (below.zip below.tail)).foldr
    (fun (input, here, next) row =>
      (if rules.spans item then row.headD false || here
       else next && rules.accepts item input) :: row)
    [rules.spans item && isLast]

/-- The row of the first item of `pattern`. -/
def table : List Item → List Input → List Bool
  | [], inputs => lastRow inputs
  | item :: pattern, inputs =>
      rules.row item pattern.isEmpty inputs (table pattern inputs)

/-- The pattern takes the whole input, from its first item to its last. -/
def run (pattern : List Item) (inputs : List Input) : Bool :=
  (rules.table pattern inputs).headD false

end Rules

end Suppression.Glob
