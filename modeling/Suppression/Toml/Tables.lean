import Suppression.Toml.Scalar
import Suppression.Toml.Spelling

/-!
# Putting tables together

The lines of a settings file name places in a table and say what stands there. A place
is filled once. A table may be opened by a header after a deeper header has made it,
but not twice. A dotted key adds to tables that no header has opened, and tables written
in place take no further fields. The fields of a table are in the order of their keys.
-/

namespace Suppression.Toml

/-- How a table came about. -/
inductive Origin where
  /-- A header or a field below it needed the table. -/
  | implied
  /-- A dotted key needed the table. -/
  | dotted
  /-- A header opened the table. -/
  | opened
  deriving DecidableEq, Repr

/-- A table under construction, and what stands in it. -/
inductive Draft where
  /-- A finished value. -/
  | value (value : Value)
  | table (origin : Origin) (fields : List (String × Draft))
  /-- An array of tables; the last one comes last. -/
  | tables (items : List (List (String × Draft)))

/-- The fields of a table under construction. -/
abbrev Fields := List (String × Draft)

namespace Draft

/-- Change, add or refuse what stands at a key. -/
def alter (key : String) (change : Option Draft → Option Draft) : Fields → Option Fields
  | [] => do return [(key, ← change none)]
  | (other, draft) :: fields =>
      if other = key then do return (other, ← change (some draft)) :: fields
      else do return (other, draft) :: (← alter key change fields)

/-- Change the fields of the table that a header path leads to. In an array of tables
that is the last table. -/
def within : List String → (Fields → Option Fields) → Fields → Option Fields
  | [], change, fields => change fields
  | key :: path, change, fields =>
      alter key
        (fun
          | none => do return .table .implied (← within path change [])
          | some (.value _) => none
          | some (.table origin fields) => do return .table origin (← within path change fields)
          | some (.tables items) =>
              match items.getLast? with
              | none => none
              | some last => do return .tables (items.dropLast ++ [← within path change last]))
        fields

/-- Open the table of a header. -/
def openTable (path : List String) : Fields → Option Fields :=
  within path.dropLast fun fields =>
    match path.getLast? with
    | none => none
    | some key =>
        alter key
          (fun
            | none => some (.table .opened [])
            | some (.table .implied fields) => some (.table .opened fields)
            | _ => none)
          fields

/-- Add a table to the array of a header. -/
def openItem (path : List String) : Fields → Option Fields :=
  within path.dropLast fun fields =>
    match path.getLast? with
    | none => none
    | some key =>
        alter key
          (fun
            | none => some (.tables [[]])
            | some (.tables items) => some (.tables (items ++ [[]]))
            | _ => none)
          fields

/-- Put a value at a dotted key, through tables that no header has opened. The key may
also lead through the last table of an array, but not end in it. -/
def insert (value : Value) : List String → Fields → Option Fields
  | [], _ => none
  | [key], fields =>
      alter key (fun | none => some (.value value) | some _ => none) fields
  | key :: path, fields =>
      alter key
        (fun
          | none => do return .table .dotted (← insert value path [])
          | some (.value _) => none
          | some (.table .opened _) => none
          | some (.table origin fields) => do return .table origin (← insert value path fields)
          | some (.tables items) =>
              match items.getLast? with
              | none => none
              | some last =>
                  if path.length ≤ 1 then none
                  else do return .tables (items.dropLast ++ [← insert value path last]))
        fields

/-- The fields in the order of their keys. -/
def inOrder (fields : List (String × Value)) : List (String × Value) :=
  fields.mergeSort fun left right => left.1 ≤ right.1

mutual

/-- The value that was put together. -/
def finish : Draft → Value
  | .value content => content
  | .table _ fields => .table (inOrder (finishFields fields))
  | .tables items => .array (finishItems items)

/-- The fields that were put together. -/
def finishFields : List (String × Draft) → List (String × Value)
  | [] => []
  | (key, draft) :: fields => (key, finish draft) :: finishFields fields

/-- The tables of an array that were put together. -/
def finishItems : List (List (String × Draft)) → List Value
  | [] => []
  | fields :: items => .table (inOrder (finishFields fields)) :: finishItems items

end

end Draft

/-- What is there, or else the text has not the form that it should have. -/
def orMalformed {α : Type} (found : Option α) : Except Fault α :=
  found.elim (.error .malformed) .ok

mutual

/-- The value that a spelling stands for. -/
def Spelling.value : Spelling → Except Fault Value
  | .text content => .ok (.scalar (.string content))
  | .bare word => (orMalformed (readBare? word)).map .scalar
  | .array items => do return .array (← Spelling.values items)
  | .table fields => do return (Draft.table .opened (← Spelling.fill [] fields)).finish

/-- The values that spellings stand for. -/
def Spelling.values : List Spelling → Except Fault (List Value)
  | [] => .ok []
  | item :: items => do return (← item.value) :: (← Spelling.values items)

/-- A table with further fields. -/
def Spelling.fill (table : Fields) : List (List String × Spelling) → Except Fault Fields
  | [] => .ok table
  | (key, spelling) :: fields => do
      checkKey key
      let value ← spelling.value
      Spelling.fill (← orMalformed (Draft.insert value key table)) fields

end

/-- What a line adds: the path of the table that fields go to, and the fields so far. -/
def addLine (state : List String × Fields) : Line → Except Fault (List String × Fields)
  | .blank => .ok state
  | .field key spelling => do
      checkKey key
      let value ← spelling.value
      return (state.1, ← orMalformed (Draft.within state.1 (Draft.insert value key) state.2))
  | .table path => do
      checkKey path
      return (path, ← orMalformed (Draft.openTable path state.2))
  | .item path => do
      checkKey path
      return (path, ← orMalformed (Draft.openItem path state.2))

/-- The fields that the lines of a settings file give. -/
def ofLines (lines : List Line) : Except Fault (List (String × Value)) := do
  let (_, fields) ← lines.foldlM addLine ([], [])
  return Draft.inOrder (Draft.finishFields fields)

end Suppression.Toml
