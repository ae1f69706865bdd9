import Suppression.Text.Pieces

/-!
# File trees

A file tree holds files and directories, by their place below the working directory.
A path is walked name by name from there: every name but the last has to be a
directory. Paths and names are Unicode texts. There is room for every file, and every file
may be read and written, so what goes wrong comes from the path alone.
-/

namespace Suppression.Files

/-- Why a file cannot be used. -/
inductive Cause where
  | missing
  | notDirectory
  | isDirectory
  | nameTooLong
  /-- The path holds a character that ends paths. -/
  | endedEarly
  deriving DecidableEq, Repr

/-- The message for the user. -/
def Cause.message : Cause → String
  | .missing => "No such file or directory (os error 2)"
  | .notDirectory => "Not a directory (os error 20)"
  | .isDirectory => "Is a directory (os error 21)"
  | .nameTooLong => "File name too long (os error 36)"
  | .endedEarly => "file name contained an unexpected NUL byte"

/-- What stands at a place. -/
inductive Node where
  | directory
  | file (content : List UInt8)
  deriving DecidableEq, Repr

/-- The names on the way from the working directory. -/
abbrev Place := List String

/-- The directory above another one. -/
def above : String := ".."

/-- The directory that all others are in. -/
def top : String := "/"

/-- Files and directories, by their places. -/
structure Tree where
  /-- The nodes, with their places. -/
  nodes : List (Place × Node)
  deriving DecidableEq, Repr

namespace Tree

/-- The tree with nothing in it. -/
def empty : Tree := ⟨[]⟩

/-- The directories that are there without being listed: the working directory, those
above it, and the topmost one. -/
def isGiven (place : Place) : Bool :=
  place.all (· = above) || place = [top]

/-- What stands at a place. -/
def node? (tree : Tree) (place : Place) : Option Node :=
  if isGiven place then some .directory else tree.nodes.lookup place

/-- Put a node at a place, over the one that may be there. -/
def put (place : Place) (node : Node) : List (Place × Node) → List (Place × Node)
  | [] => [(place, node)]
  | (other, old) :: nodes =>
      if other = place then (other, node) :: nodes else (other, old) :: put place node nodes

/-- The tree with a node put at a place. -/
def set (tree : Tree) (place : Place) (node : Node) : Tree := ⟨put place node tree.nodes⟩

theorem lookup_put_self (place : Place) (node : Node) (nodes : List (Place × Node)) :
    (put place node nodes).lookup place = some node := by
  induction nodes with
  | nil => simp [put]
  | cons entry nodes ih =>
      obtain ⟨other, old⟩ := entry
      by_cases hplace : other = place
      · simp [put, hplace]
      · have hne : (place == other) = false := by simpa using fun h => hplace h.symm
        simp [put, List.lookup_cons, hplace, hne, ih]

theorem lookup_put_of_ne {place other : Place} (h : other ≠ place) (node : Node)
    (nodes : List (Place × Node)) : (put place node nodes).lookup other = nodes.lookup other := by
  induction nodes with
  | nil =>
      have hne : (other == place) = false := by simpa using h
      simp [put, List.lookup_cons, hne]
  | cons entry nodes ih =>
      obtain ⟨name, old⟩ := entry
      by_cases hname : name = place
      · subst hname
        have hne : (other == name) = false := by simpa using h
        simp [put, List.lookup_cons, hne]
      · simp only [put, hname, if_false, List.lookup_cons]
        cases other == name <;> simp [ih]

/-- What was put at a place stands there. -/
theorem node?_set_self {place : Place} (h : isGiven place = false) (tree : Tree) (node : Node) :
    (tree.set place node).node? place = some node := by
  rw [node?, h]
  exact lookup_put_self place node tree.nodes

/-- Nothing else changes. -/
theorem node?_set_of_ne {place other : Place} (h : other ≠ place) (tree : Tree) (node : Node) :
    (tree.set place node).node? other = tree.node? other := by
  unfold node?
  rw [set, lookup_put_of_ne h]

/-- One step of a walk, from a directory. -/
def step (place : Place) (name : String) : Place :=
  if name = "" ∨ name = "." then place
  else if name = above then
    if place = [top] then place
    else if place.all (· = above) then place ++ [above]
    else place.dropLast
  else place ++ [name]

/-- The names of a path, and the place where it starts. -/
def names (path : String) : List String :=
  (Text.pieces (· = '/') path.toList).map String.ofList

/-- The place where a path starts. -/
def start (path : String) : Place :=
  if path.toList.head? = some '/' then [top] else []

/-- A name that is not kept by any directory. -/
def isTooLong (name : String) : Bool := 255 < name.utf8ByteSize

/-- Walk along directories, each of which has to be there. -/
def walk (tree : Tree) : Place → List String → Except Cause Place
  | place, [] => .ok place
  | place, name :: rest =>
      let next := step place name
      if isTooLong name then .error .nameTooLong
      else
        match tree.node? next with
        | some .directory => walk tree next rest
        | some (.file _) => .error .notDirectory
        | none => .error .missing

/-- Refuse a path that holds the character that ends paths, or that is longer than any
path may be. -/
def checkPath (path : String) : Except Cause Unit :=
  if path.toList.contains '\x00' then .error .endedEarly
  else if 4095 < path.utf8ByteSize then .error .nameTooLong
  else .ok ()

/-- The directory that a path leads to, and the last name of the path. -/
def resolve (tree : Tree) (path : String) : Except Cause (Place × String) := do
  checkPath path
  if path = "" then .error .missing
  else
    let all := names path
    return (← tree.walk (start path) all.dropLast, all.getLastD "")

/-- The place of a name in a directory. -/
def entry (place : Place) (name : String) : Except Cause Place :=
  if isTooLong name then .error .nameTooLong else .ok (step place name)

/-- The node that a path names. -/
def find (tree : Tree) (path : String) : Except Cause (Place × Node) := do
  let (place, last) ← tree.resolve path
  let target ← entry place last
  match tree.node? target with
  | some node => return (target, node)
  | none => .error .missing

/-- A file or directory that was opened to be read. -/
structure Opened where
  /-- What was found. -/
  node : Node

/-- Open what a path names. A directory can be opened. -/
def openNode (tree : Tree) (path : String) : Except Cause Opened := do
  let (_, node) ← tree.find path
  return ⟨node⟩

/-- The bytes of what was opened. -/
def Opened.bytes (opened : Opened) : Except Cause (List UInt8) :=
  match opened.node with
  | .directory => .error .isDirectory
  | .file content => .ok content

/-- The content of a file. -/
def content (tree : Tree) (path : String) : Except Cause (List UInt8) := do
  (← tree.openNode path).bytes

/-- The path names a file. -/
def isFile (tree : Tree) (path : String) : Bool :=
  (tree.content path).isOk

/-- The path without the slashes at its end. -/
def withoutFinalSlashes (path : String) : String :=
  String.ofList (path.toList.reverse.dropWhile (· = '/')).reverse

/-- Find the place for a file that is to be written, in a directory that is there. A
path that ends in a slash names a directory, whatever its last name. -/
def writable (tree : Tree) (path : String) : Except Cause Place := do
  checkPath path
  let trimmed := withoutFinalSlashes path
  if trimmed = "" ∧ path ≠ "" then .error .isDirectory
  else
    let (place, last) ← tree.resolve trimmed
    if trimmed ≠ path then .error .isDirectory
    else
      let target ← entry place last
      match tree.node? target with
      | some .directory => .error .isDirectory
      | _ => return target

/-- Make a file empty, or make an empty file. -/
def create (tree : Tree) (path : String) : Except Cause (Place × Tree) := do
  let target ← tree.writable path
  return (target, tree.set target (.file []))

/-- Make all directories on the way to a place that are not there yet. -/
def withDirectories (tree : Tree) : Place → List String → Tree
  | _, [] => tree
  | place, name :: rest =>
      let next := step place name
      let tree := match tree.node? next with
        | some _ => tree
        | none => tree.set next .directory
      withDirectories tree next rest

/-- Put a file at a path, and make the directories it needs. -/
def writeFile (tree : Tree) (path : String) (content : List UInt8) : Tree :=
  let all := names path
  let place := all.dropLast.foldl step (start path)
  (tree.withDirectories (start path) all.dropLast).set (step place (all.getLastD ""))
    (.file content)

/-- Make a directory at a path, and those it needs. -/
def makeDirectory (tree : Tree) (path : String) : Tree :=
  tree.withDirectories (start path) (names path)

end Tree

end Suppression.Files
