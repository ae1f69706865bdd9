import Suppression.Files.Tree
import Suppression.Proofs.Fallible

/-!
# Writing a file

A path can be written to if it leads to a directory and on to a place that holds none.
A file that is written there can be read by the same path, and no other place changes.
All directories stay, so every path that could be written to before still can.
-/

namespace Suppression.Files.Tree

/-- One place holds a node, and everything else is as it was. -/
def Replaced (place : Place) (node : Node) (before after : Tree) : Prop :=
  after.node? place = some node ∧ ∀ other, other ≠ place → after.node? other = before.node? other

variable {tree : Tree}

theorem isGiven_eq_false {place : Place} (h : tree.node? place ≠ some .directory) :
    isGiven place = false := by
  rw [Bool.eq_false_iff]
  intro hgiven
  exact h (if_pos hgiven)

theorem set_replaced {place : Place} (h : tree.node? place ≠ some .directory) (node : Node) :
    Replaced place node tree (tree.set place node) :=
  ⟨node?_set_self (isGiven_eq_false h) tree node, fun _ hother => node?_set_of_ne hother tree node⟩

theorem Replaced.trans {place : Place} {first second : Node} {before between after : Tree}
    (hfirst : Replaced place first before between)
    (hsecond : Replaced place second between after) : Replaced place second before after :=
  ⟨hsecond.1, fun other hother => (hsecond.2 other hother).trans (hfirst.2 other hother)⟩

/-- The places that a path can be written to. -/
theorem writable_eq_ok_iff {path : String} {target : Place} :
    tree.writable path = .ok target ↔
      withoutFinalSlashes path = path ∧
        ∃ place last, tree.resolve path = .ok (place, last) ∧ entry place last = .ok target ∧
          tree.node? target ≠ some .directory := by
  constructor
  · intro h
    obtain ⟨_, -, h⟩ := exists_of_bind_eq_ok h
    dsimp only at h
    split at h
    next => cases h
    next =>
      obtain ⟨⟨place, last⟩, hresolve, h⟩ := exists_of_bind_eq_ok h
      dsimp only at h
      split at h
      next => cases h
      next htrimmed =>
        rw [Decidable.not_not] at htrimmed
        obtain ⟨found, hentry, h⟩ := exists_of_bind_eq_ok h
        rw [htrimmed] at hresolve
        refine ⟨htrimmed, place, last, hresolve, ?_⟩
        split at h
        next => cases h
        next hnode =>
          cases h
          exact ⟨hentry, hnode⟩
  · intro h
    obtain ⟨htrimmed, place, last, hresolve, hentry, hnode⟩ := h
    obtain ⟨_, hcheck, -⟩ := exists_of_bind_eq_ok hresolve
    have hpath : ¬ (path = "" ∧ path ≠ "") := fun hpath => hpath.2 hpath.1
    have hsame : ¬ path ≠ path := fun hne => hne rfl
    simp only [writable, hcheck, htrimmed, hresolve, hentry, hpath, hsame, if_false, bind,
      Except.bind]
    rfl

theorem walk_set {target : Place} (h : tree.node? target ≠ some .directory) (node : Node)
    {place last : Place} {names : List String} (hwalk : tree.walk place names = .ok last) :
    (tree.set target node).walk place names = .ok last := by
  induction names generalizing place with
  | nil => exact hwalk
  | cons name names ih =>
      unfold walk at hwalk ⊢
      dsimp only at hwalk ⊢
      split at hwalk
      next => cases hwalk
      next hlength =>
        rw [if_neg hlength]
        split at hwalk
        next hnode =>
          -- The place that is walked through is a directory, so it is another one.
          have hother : step place name ≠ target := by
            intro heq
            rw [heq] at hnode
            exact h hnode
          rw [node?_set_of_ne hother, hnode]
          exact ih hwalk
        next => cases hwalk
        next => cases hwalk

theorem resolve_set {target : Place} (h : tree.node? target ≠ some .directory) (node : Node)
    {path : String} {found : Place × String} (hresolve : tree.resolve path = .ok found) :
    (tree.set target node).resolve path = .ok found := by
  obtain ⟨_, hcheck, hresolve⟩ := exists_of_bind_eq_ok hresolve
  dsimp only at hresolve
  split at hresolve
  next => cases hresolve
  next hpath =>
    obtain ⟨last, hwalk, hfound⟩ := exists_of_bind_eq_ok hresolve
    rw [resolve, hcheck]
    change (if path = "" then _ else _) = _
    rw [if_neg hpath, walk_set h node hwalk]
    exact hfound

/-- A file that is written can be read by its path. -/
theorem content_set {path : String} {target : Place} (h : tree.writable path = .ok target)
    (bytes : List UInt8) : (tree.set target (.file bytes)).content path = .ok bytes := by
  obtain ⟨-, place, last, hresolve, hentry, hnode⟩ := writable_eq_ok_iff.mp h
  have hself := node?_set_self (isGiven_eq_false hnode) tree (.file bytes)
  have hafter := resolve_set hnode (.file bytes) hresolve
  simp only [content, openNode, find, hafter, hentry, hself, bind, Except.bind]
  rfl

/-- A walk looks at nothing but the nodes at the places it comes to. -/
theorem walk_congr {other : Tree} (h : ∀ place, other.node? place = tree.node? place)
    (place : Place) (names : List String) : other.walk place names = tree.walk place names := by
  induction names generalizing place with
  | nil => rfl
  | cons name names ih => simp only [walk, h, ih]

theorem content_congr {other : Tree} (h : ∀ place, other.node? place = tree.node? place)
    (path : String) : other.content path = tree.content path := by
  simp only [content, openNode, find, resolve, walk_congr h, h]

/-- Whatever put a file at the place that a path is written to, the path leads to its bytes. -/
theorem Replaced.content {path : String} {target : Place} {bytes : List UInt8} {after : Tree}
    (h : Replaced target (.file bytes) tree after) (htarget : tree.writable path = .ok target) :
    after.content path = .ok bytes := by
  obtain ⟨-, -, -, -, -, hnode⟩ := writable_eq_ok_iff.mp htarget
  have hsame : ∀ place, after.node? place = (tree.set target (.file bytes)).node? place := by
    intro place
    by_cases hplace : place = target
    · rw [hplace, h.1, node?_set_self (isGiven_eq_false hnode)]
    · rw [h.2 place hplace, node?_set_of_ne hplace]
  rw [content_congr hsame, content_set htarget]

/-- Writing a file takes no path away from those that can be written to. -/
theorem writable_set {path : String} {target place : Place} {bytes : List UInt8}
    (h : tree.node? target ≠ some .directory) (hpath : tree.writable path = .ok place) :
    (tree.set target (.file bytes)).writable path = .ok place := by
  obtain ⟨htrimmed, directory, last, hresolve, hentry, hnode⟩ := writable_eq_ok_iff.mp hpath
  refine writable_eq_ok_iff.mpr
    ⟨htrimmed, directory, last, resolve_set h (.file bytes) hresolve, hentry, ?_⟩
  by_cases hplace : place = target
  · rw [hplace, node?_set_self (isGiven_eq_false h)]
    simp
  · rwa [node?_set_of_ne hplace]

end Suppression.Files.Tree
