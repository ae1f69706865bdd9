import Suppression.Glob.Basic
import Suppression.Proofs.Glob.Recursion

/-!
# Matching in two rows

Of the table of a pattern only two rows are ever needed. They take turns: one is filled, from the
end of the inputs back, while the other one is the row below it. Then the two are exchanged, so
the row that is filled next still holds what was written two rows earlier.

Nothing that old is ever looked at. A row is filled from cells of the row below, which is
complete, and from cells of its own that have just been written. So the two rows find what the
table finds, and both find what a plain recursion on the pattern and the input finds.
-/

namespace Suppression.Glob

/-! ## Recursions -/

/-- Tokens against the characters of a part, one by one. Once the characters are used up, only a
lone star is left to match. -/
def matchTokens : List Token → List Char → Bool
  | [], [] => true
  | [], _ :: _ => false
  | token :: tokens, [] => (token :: tokens) = [.star]
  | .star :: tokens, c :: text =>
      matchTokens (.star :: tokens) text || matchTokens tokens (c :: text)
  | .anyChar :: tokens, _ :: text => matchTokens tokens text
  | .literal expected :: tokens, c :: text => expected = c && matchTokens tokens text
  | .danglingEscape :: _, _ :: _ => false
termination_by tokens text => tokens.length + text.length

/-- Components against the parts of a candidate, one by one. Once the parts are used up, only a
lone `**` is left to match. -/
def matchComponents : List Component → List (List Char) → Bool
  | [], [] => true
  | [], _ :: _ => false
  | component :: components, [] => (component :: components) = [.recursive]
  | .recursive :: components, part :: parts =>
      matchComponents (.recursive :: components) parts ||
        matchComponents components (part :: parts)
  | .segment tokens :: components, part :: parts =>
      matchTokens tokens part && matchComponents components parts
termination_by components parts => components.length + parts.length

namespace Rules

variable {Item Input : Type} {rules : Rules Item Input} {item : Item}

theorem matchesFrom_cons_of_spans (h : rules.spans item = true) (pattern : List Item)
    (input : Input) (inputs : List Input) :
    rules.matchesFrom (item :: pattern) (input :: inputs) =
      (rules.matchesFrom (item :: pattern) inputs || rules.matchesFrom pattern (input :: inputs)) := by
  rw [matchesFrom, if_pos h]

theorem matchesFrom_cons_of_not_spans (h : rules.spans item = false) (pattern : List Item)
    (input : Input) (inputs : List Input) :
    rules.matchesFrom (item :: pattern) (input :: inputs) =
      (rules.matchesFrom pattern inputs && rules.accepts item input) := by
  rw [matchesFrom, if_neg (Bool.eq_false_iff.mp h)]

end Rules

theorem matchesFrom_tokens (tokens : List Token) (text : List Char) :
    tokenRules.matchesFrom tokens text = matchTokens tokens text := by
  fun_induction matchTokens tokens text with
  | case1 => rw [Rules.matchesFrom, List.isEmpty_nil]
  | case2 => rw [Rules.matchesFrom, List.isEmpty_cons]
  | case3 token tokens => cases tokens <;> simp [Rules.matchesFrom, tokenRules]
  | case4 tokens c text ihmore ihskip =>
      rw [Rules.matchesFrom_cons_of_spans rfl, ihmore, ihskip]
  | case5 tokens c text ih =>
      rw [Rules.matchesFrom_cons_of_not_spans rfl, ih]
      exact Bool.and_true _
  | case6 expected tokens c text ih =>
      rw [Rules.matchesFrom_cons_of_not_spans rfl, ih]
      exact Bool.and_comm _ _
  | case7 tokens c text =>
      rw [Rules.matchesFrom_cons_of_not_spans rfl]
      exact Bool.and_false _

/-- The table of the tokens of a component finds what the recursion on them finds. -/
theorem run_tokens (tokens : List Token) (text : List Char) :
    tokenRules.run tokens text = matchTokens tokens text := by
  rw [Rules.run_eq_matchesFrom, matchesFrom_tokens]

theorem matchesFrom_components (components : List Component) (parts : List (List Char)) :
    componentRules.matchesFrom components parts = matchComponents components parts := by
  fun_induction matchComponents components parts with
  | case1 => rw [Rules.matchesFrom, List.isEmpty_nil]
  | case2 => rw [Rules.matchesFrom, List.isEmpty_cons]
  | case3 component components => cases components <;> simp [Rules.matchesFrom, componentRules]
  | case4 components part parts ihmore ihskip =>
      rw [Rules.matchesFrom_cons_of_spans rfl, ihmore, ihskip]
  | case5 tokens components part parts ih =>
      have haccepts : componentRules.accepts (.segment tokens) part = matchTokens tokens part :=
        run_tokens tokens part
      rw [Rules.matchesFrom_cons_of_not_spans rfl, ih, haccepts, Bool.and_comm]

/-! ## Two rows -/

/-- A cell of a row. -/
structure Cell where
  /-- The items of its row match the inputs from here on. -/
  holds : Bool
  /-- The number of items in the row that the cell was written for, if it was written at all. -/
  writtenFor : Option Nat
  deriving DecidableEq

/-- A look at a cell. -/
structure Look where
  /-- The number of items in the current row. -/
  current : Nat
  /-- The cell, as it was found. -/
  cell : Cell
  deriving DecidableEq

/-- The cell was written for the current row, or for the row below it. -/
def Look.Fresh (look : Look) : Prop :=
  look.cell.writtenFor = some look.current ∨
    ∃ below, look.cell.writtenFor = some below ∧ below + 1 = look.current

/-- Two rows of cells, and what was looked at in them. No answer depends on the record of the
current row and of the looks. -/
structure Rows where
  /-- The row that is filled. -/
  row : List Cell
  /-- The row below it. -/
  next : List Cell
  /-- The number of items in the current row. -/
  current : Nat
  /-- All looks at cells, in their order. -/
  looks : List Look

/-- The rows for an input of this length. The row below is that of no items, which matches the
empty input only, and the other one is yet to be written. -/
def Rows.start (length : Nat) : Rows where
  row := List.replicate (length + 1) ⟨false, none⟩
  next := (List.replicate (length + 1) ⟨false, some 0⟩).set length ⟨true, some 0⟩
  current := 0
  looks := []

/-- Work on two rows. It breaks off if there is no cell or input at an index. -/
abbrev Work := StateT Rows Option

namespace Work

/-- Look at a cell of one of the rows. -/
def lookAt (side : Rows → List Cell) (i : Nat) : Work Bool := do
  let rows ← get
  let cell ← (side rows)[i]?
  set { rows with looks := rows.looks ++ [Look.mk rows.current cell] }
  return cell.holds

/-- Write a cell of the row that is filled. -/
def write (i : Nat) (holds : Bool) : Work Unit := do
  let rows ← get
  guard (i < rows.row.length)
  set { rows with row := rows.row.set i ⟨holds, some rows.current⟩ }

variable {Item Input : Type} (rules : Rules Item Input)

/-- Fill the cell of one item and one input. Both cells of a spanning item are looked at, even
if the first one settles the matter. -/
def fillCell (item : Item) (input : Input) (i : Nat) : Work Unit := do
  if rules.spans item then
    let more ← lookAt Rows.row (i + 1)
    let skip ← lookAt Rows.next i
    write i (more || skip)
  else
    let below ← lookAt Rows.next (i + 1)
    write i (below && rules.accepts item input)

/-- Fill the cells in front of an index, from there back. -/
def fillBack (item : Item) (inputs : List Input) : Nat → Work Unit
  | 0 => return ()
  | i + 1 => do
      let input ← inputs[i]?
      fillCell rules item input i
      fillBack item inputs i

/-- Fill the row of an item, then exchange the rows. -/
def fillRow (item : Item) (isLast : Bool) (inputs : List Input) : Work Unit := do
  modify fun rows => { rows with current := rows.current + 1 }
  write inputs.length (rules.spans item && isLast)
  fillBack rules item inputs inputs.length
  modify fun rows => { rows with row := rows.next, next := rows.row }

/-- Fill the rows of all items, from the last one to the first. -/
def fillRows : List Item → List Input → Work Unit
  | [], _ => return ()
  | item :: pattern, inputs => do
      fillRows pattern inputs
      fillRow rules item pattern.isEmpty inputs

/-- Match in two rows. -/
def answer (pattern : List Item) (inputs : List Input) : Work Bool := do
  fillRows rules pattern inputs
  lookAt Rows.next 0

/-! ### What work leads to -/

/-- From rows like those before, the work does not break off, and it leaves rows like those
after. -/
def Leads {α : Type} (work : Work α) (before : Rows → Prop) (after : α → Rows → Prop) : Prop :=
  ∀ rows, before rows → ∃ value left, work.run rows = some (value, left) ∧ after value left

theorem Leads.bind {α β : Type} {work : Work α} {next : α → Work β} {before : Rows → Prop}
    {between : α → Rows → Prop} {after : β → Rows → Prop} (h : work.Leads before between)
    (hnext : ∀ value, (next value).Leads (between value) after) :
    (work >>= next).Leads before after := by
  intro rows hrows
  obtain ⟨value, middle, hrun, hmiddle⟩ := h rows hrows
  obtain ⟨last, left, hlast, hleft⟩ := hnext value middle hmiddle
  refine ⟨last, left, ?_, hleft⟩
  rw [StateT.run_bind, hrun]
  exact hlast

/-- What does not depend on the rows may be assumed. -/
theorem leads_and_iff {α : Type} {work : Work α} {fact : Prop} {before : Rows → Prop}
    {after : α → Rows → Prop} :
    work.Leads (fun rows => fact ∧ before rows) after ↔ (fact → work.Leads before after) := by
  constructor
  · intro h hfact rows hrows
    exact h rows ⟨hfact, hrows⟩
  · rintro h rows ⟨hfact, hrows⟩
    exact h hfact rows hrows

theorem leads_pure {α : Type} {value : α} {before : Rows → Prop} {after : α → Rows → Prop}
    (h : ∀ rows, before rows → after value rows) : (pure value : Work α).Leads before after :=
  fun rows hrows => ⟨value, rows, rfl, h rows hrows⟩

theorem leads_modify {change : Rows → Rows} {before after : Rows → Prop}
    (h : ∀ rows, before rows → after (change rows)) :
    (modify change : Work Unit).Leads before fun _ => after :=
  fun rows hrows => ⟨(), change rows, rfl, h rows hrows⟩

theorem leads_lookAt {side : Rows → List Cell} {i : Nat} (cell : Cell)
    {before : Rows → Prop} {after : Bool → Rows → Prop}
    (hcell : ∀ rows, before rows → (side rows)[i]? = some cell)
    (h : ∀ rows, before rows →
      after cell.holds { rows with looks := rows.looks ++ [⟨rows.current, cell⟩] }) :
    (lookAt side i).Leads before after := by
  intro rows hrows
  refine ⟨cell.holds, _, ?_, h rows hrows⟩
  simp [lookAt, hcell rows hrows]

theorem leads_write {i : Nat} {holds : Bool} {before after : Rows → Prop}
    (hlength : ∀ rows, before rows → i < rows.row.length)
    (h : ∀ rows, before rows →
      after { rows with row := rows.row.set i ⟨holds, some rows.current⟩ }) :
    (write i holds).Leads before fun _ => after := by
  intro rows hrows
  refine ⟨(), _, ?_, h rows hrows⟩
  simp [write, guard, hlength rows hrows]

theorem leads_lift {α : Type} {result : Option α} {value : α} (hresult : result = some value)
    (before : Rows → Prop) :
    (liftM result : Work α).Leads before fun found rows => found = value ∧ before rows := by
  intro rows hrows
  subst hresult
  exact ⟨value, rows, rfl, rfl, hrows⟩

/-! ### What the rows hold -/

/-- The cells in the row of a pattern, for the inputs and all that follow them. -/
def rowCells (pattern : List Item) (inputs : List Input) : List Cell :=
  inputs.tails.map fun rest => ⟨rules.matchesFrom pattern rest, some pattern.length⟩

theorem length_rowCells (pattern : List Item) (inputs : List Input) :
    (rowCells rules pattern inputs).length = inputs.length + 1 := by
  rw [rowCells, List.length_map, List.length_tails]

theorem getElem?_rowCells (pattern : List Item) {inputs : List Input} {i : Nat}
    (h : i ≤ inputs.length) :
    (rowCells rules pattern inputs)[i]? =
      some ⟨rules.matchesFrom pattern (inputs.drop i), some pattern.length⟩ := by
  have hlength : i < inputs.tails.length := by
    rw [List.length_tails]
    exact Nat.lt_succ_of_le h
  rw [rowCells, List.getElem?_map, List.getElem?_eq_getElem hlength, List.getElem_tails]
  rfl

variable {rules}

/-- The rows are exchanged: the row below is that of the pattern, and the other one waits to be
filled. -/
structure Ready (rules : Rules Item Input) (pattern : List Item) (inputs : List Input)
    (rows : Rows) : Prop where
  next : rows.next = rowCells rules pattern inputs
  row : rows.row.length = inputs.length + 1
  current : rows.current = pattern.length
  fresh : ∀ look ∈ rows.looks, look.Fresh

/-- In the row of the first item, the cells from an index on have been written. What stands in
front of them is stale. -/
structure Filled (rules : Rules Item Input) (item : Item) (pattern : List Item)
    (inputs : List Input) (i : Nat) (rows : Rows) : Prop where
  next : rows.next = rowCells rules pattern inputs
  row : ∃ stale, stale.length = i ∧
    rows.row = stale ++ (rowCells rules (item :: pattern) inputs).drop i
  current : rows.current = pattern.length + 1
  fresh : ∀ look ∈ rows.looks, look.Fresh

/-! ### Filling a row -/

section

variable {item : Item} {pattern : List Item} {inputs : List Input} {i : Nat}

theorem Filled.look {rows : Rows} (h : Filled rules item pattern inputs i rows) {cell : Cell}
    (hcell : (Look.mk rows.current cell).Fresh) :
    Filled rules item pattern inputs i
      { rows with looks := rows.looks ++ [⟨rows.current, cell⟩] } where
  next := h.next
  row := h.row
  current := h.current
  fresh := List.forall_mem_append.mpr ⟨h.fresh, List.forall_mem_singleton.mpr hcell⟩

/-- The last cell that was written is looked at. -/
theorem leads_lookAt_row (hi : i ≤ inputs.length) :
    (lookAt Rows.row i).Leads (Filled rules item pattern inputs i) fun more rows =>
      more = rules.matchesFrom (item :: pattern) (inputs.drop i) ∧
        Filled rules item pattern inputs i rows := by
  apply leads_lookAt ⟨_, some (pattern.length + 1)⟩
  · intro rows hrows
    obtain ⟨stale, hlength, hrow⟩ := hrows.row
    rw [hrow, List.getElem?_append_right hlength.le, hlength, Nat.sub_self, List.getElem?_drop]
    exact getElem?_rowCells rules (item :: pattern) hi
  · intro rows hrows
    refine ⟨rfl, hrows.look (.inl ?_)⟩
    rw [hrows.current]

/-- Any cell of the row below may be looked at. -/
theorem leads_lookAt_next {j : Nat} (hj : j ≤ inputs.length) :
    (lookAt Rows.next j).Leads (Filled rules item pattern inputs i) fun below rows =>
      below = rules.matchesFrom pattern (inputs.drop j) ∧
        Filled rules item pattern inputs i rows := by
  apply leads_lookAt ⟨_, some pattern.length⟩
  · intro rows hrows
    rw [hrows.next]
    exact getElem?_rowCells rules pattern hj
  · intro rows hrows
    refine ⟨rfl, hrows.look (.inr ⟨pattern.length, rfl, ?_⟩)⟩
    rw [hrows.current]

/-- The last of the stale cells is written. -/
theorem leads_write_cell (hi : i ≤ inputs.length) {holds : Bool}
    (hholds : holds = rules.matchesFrom (item :: pattern) (inputs.drop i)) :
    (write i holds).Leads (Filled rules item pattern inputs (i + 1)) fun _ =>
      Filled rules item pattern inputs i := by
  apply leads_write
  · intro rows hrows
    obtain ⟨stale, hlength, hrow⟩ := hrows.row
    rw [hrow, List.length_append, hlength]
    omega
  · intro rows hrows
    refine ⟨hrows.next, ?_, hrows.current, hrows.fresh⟩
    obtain ⟨stale, hlength, hrow⟩ := hrows.row
    rcases List.eq_nil_or_concat' stale with rfl | ⟨front, old, rfl⟩
    · cases hlength
    · have hfront : front.length = i := by simpa using hlength
      obtain ⟨hcells, hcell⟩ :=
        List.getElem?_eq_some_iff.mp (getElem?_rowCells rules (item :: pattern) hi)
      refine ⟨front, hfront, ?_⟩
      rw [List.drop_eq_getElem_cons hcells, hcell, ← hholds, hrow, hrows.current,
        List.append_assoc, List.set_append_right _ _ hfront.le, hfront, Nat.sub_self]
      rfl

theorem leads_fillCell {input : Input} (hinput : inputs[i]? = some input) :
    (fillCell rules item input i).Leads (Filled rules item pattern inputs (i + 1)) fun _ =>
      Filled rules item pattern inputs i := by
  obtain ⟨hi, rfl⟩ := List.getElem?_eq_some_iff.mp hinput
  have hinputs : inputs.drop i = inputs[i] :: inputs.drop (i + 1) := List.drop_eq_getElem_cons hi
  unfold fillCell
  split
  next hspans =>
    refine (leads_lookAt_row hi).bind fun more => leads_and_iff.mpr fun hmore => ?_
    refine (leads_lookAt_next hi.le).bind fun skip => leads_and_iff.mpr fun hskip => ?_
    apply leads_write_cell hi.le
    rw [hmore, hskip, hinputs, Rules.matchesFrom_cons_of_spans hspans]
  next hspans =>
    refine (leads_lookAt_next hi).bind fun below => leads_and_iff.mpr fun hbelow => ?_
    apply leads_write_cell hi.le
    rw [hbelow, hinputs, Rules.matchesFrom_cons_of_not_spans (Bool.eq_false_iff.mpr hspans)]

/-- Every cell that is filled leaves one stale cell less. -/
theorem leads_fillBack (hi : i ≤ inputs.length) :
    (fillBack rules item inputs i).Leads (Filled rules item pattern inputs i) fun _ =>
      Filled rules item pattern inputs 0 := by
  induction i with
  | zero => exact leads_pure fun rows hrows => hrows
  | succ i ih =>
      have hinput : inputs[i]? = some inputs[i] := List.getElem?_eq_getElem hi
      refine (leads_lift hinput _).bind fun input => leads_and_iff.mpr ?_
      rintro rfl
      exact (leads_fillCell hinput).bind fun _ => ih (Nat.le_of_succ_le hi)

/-- A row is filled over whatever it held, and then it is the row below. -/
theorem leads_fillRow :
    (fillRow rules item pattern.isEmpty inputs).Leads (Ready rules pattern inputs) fun _ =>
      Ready rules (item :: pattern) inputs := by
  have hlast : (rules.spans item && pattern.isEmpty) =
      rules.matchesFrom (item :: pattern) (inputs.drop inputs.length) := by
    rw [List.drop_length, Rules.matchesFrom]
  have hbegin : (modify fun rows => { rows with current := rows.current + 1 } : Work Unit).Leads
      (Ready rules pattern inputs) fun _ =>
        Filled rules item pattern inputs (inputs.length + 1) := by
    apply leads_modify
    intro rows hrows
    refine ⟨hrows.next, ⟨rows.row, hrows.row, ?_⟩, by rw [hrows.current], hrows.fresh⟩
    rw [← length_rowCells rules (item :: pattern) inputs, List.drop_length,
      List.append_nil]
  have hend : (modify fun rows => { rows with row := rows.next, next := rows.row } :
      Work Unit).Leads (Filled rules item pattern inputs 0) fun _ =>
        Ready rules (item :: pattern) inputs := by
    apply leads_modify
    intro rows hrows
    obtain ⟨stale, hlength, hrow⟩ := hrows.row
    rw [List.eq_nil_of_length_eq_zero hlength] at hrow
    refine ⟨hrow, ?_, hrows.current, hrows.fresh⟩
    exact (congrArg List.length hrows.next).trans (length_rowCells rules pattern inputs)
  exact hbegin.bind fun _ => (leads_write_cell le_rfl hlast).bind fun _ =>
    (leads_fillBack le_rfl).bind fun _ => hend

end

theorem leads_fillRows (pattern : List Item) (inputs : List Input) :
    (fillRows rules pattern inputs).Leads (Ready rules [] inputs) fun _ =>
      Ready rules pattern inputs := by
  induction pattern with
  | nil => exact leads_pure fun rows hrows => hrows
  | cons item pattern ih => exact ih.bind fun _ => leads_fillRow

/-- Before any item, the row below is that of no items. -/
theorem ready_start (inputs : List Input) : Ready rules [] inputs (.start inputs.length) where
  next := by
    change (List.replicate (inputs.length + 1) _).set inputs.length _ = _
    induction inputs with
    | nil => simp [rowCells, Rules.matchesFrom]
    | cons input inputs ih =>
        rw [List.length_cons, List.replicate_succ, List.set_cons_succ, ih, rowCells, rowCells,
          List.tails_cons, List.map_cons, Rules.matchesFrom]
        rfl
  row := by rw [Rows.start, List.length_replicate]
  current := rfl
  fresh := List.forall_mem_nil _

theorem leads_answer (pattern : List Item) (inputs : List Input) :
    (answer rules pattern inputs).Leads (Ready rules [] inputs) fun found rows =>
      found = rules.run pattern inputs ∧ ∀ look ∈ rows.looks, look.Fresh := by
  refine (leads_fillRows pattern inputs).bind fun _ => ?_
  apply leads_lookAt ⟨_, some pattern.length⟩
  · intro rows hrows
    rw [hrows.next]
    exact getElem?_rowCells rules pattern (Nat.zero_le _)
  · intro rows hrows
    refine ⟨?_, List.forall_mem_append.mpr ⟨hrows.fresh, List.forall_mem_singleton.mpr (.inl ?_)⟩⟩
    · rw [Rules.run_eq_matchesFrom, List.drop_zero]
    · rw [hrows.current]

end Work

/-- Two rows that take turns find what the table finds, and look at no cell that is older than the
row below. The tables of components and of tokens find what plain recursions find. -/
theorem run_eq_recursion :
    (∀ components parts, componentRules.run components parts = matchComponents components parts) ∧
    (∀ tokens text, tokenRules.run tokens text = matchTokens tokens text) ∧
    ∀ {Item Input : Type} (rules : Rules Item Input) (pattern : List Item) (inputs : List Input),
      ∃ rows, (Work.answer rules pattern inputs).run (.start inputs.length) =
          some (rules.run pattern inputs, rows) ∧ ∀ look ∈ rows.looks, look.Fresh := by
  refine ⟨?_, run_tokens, ?_⟩
  · intro components parts
    rw [Rules.run_eq_matchesFrom, matchesFrom_components]
  · intro Item Input rules pattern inputs
    obtain ⟨found, rows, hrun, rfl, hfresh⟩ :=
      Work.leads_answer pattern inputs _ (Work.ready_start inputs)
    exact ⟨rows, hrun, hfresh⟩

/-- The row that would be filled third still holds what was written for the first one. -/
example :
    ((Work.fillRows tokenRules [.anyChar, .literal 'a'] ['b', 'a']).run (.start 2)).map
      (fun outcome => outcome.2.row.map Cell.writtenFor) = some [some 1, some 1, some 1] := by
  cbv

end Suppression.Glob
