import Suppression.Files.Tree

/-!
# Names of files

The last name of a path says what kind of file it leads to: what stands behind the last
dot of the name is its end. Steps of a path that stay where they are do not count.
-/

namespace Suppression.Files

/-- The names of a path that lead somewhere. -/
def steps (path : String) : List String :=
  (Tree.names path).filter fun name => name ≠ "" ∧ name ≠ "."

/-- The path with these names, from the topmost directory if `path` begins there. -/
def pathLike (path : String) (names : List String) : String :=
  (if path.toList.head? = some '/' then "/" else "") ++ "/".intercalate names

/-- The path without the steps that lead nowhere. -/
def shortPath (path : String) : String := pathLike path (steps path)

/-- The last name of a path, unless it leads upwards. -/
def lastName? (path : String) : Option String :=
  (steps path).getLast?.filter (· ≠ above)

/-- A name in front of its last dot, and its end behind it. A dot at the beginning of the
name does not count. -/
def splitName (name : String) : String × Option String :=
  let ending := (name.toList.reverse.takeWhile (· ≠ '.')).reverse
  let start := (name.toList.reverse.drop (ending.length + 1)).reverse
  if start = [] then (name, none) else (String.ofList start, some (String.ofList ending))

/-- The end of the file name of a path. -/
def nameEnd? (path : String) : Option String :=
  (lastName? path).bind fun name => (splitName name).2

/-- The path with another end of its file name. A path that leads to no file name has
none. -/
def withNameEnd? (path ending : String) : Option String :=
  (lastName? path).map fun name =>
    pathLike path ((steps path).dropLast ++ [(splitName name).1 ++ "." ++ ending])

end Suppression.Files
