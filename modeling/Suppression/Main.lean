import Suppression.Console.Program

/-!
# The executable

Reads the files and variables that a run of the program needs, runs it, and writes what
has changed. Its arguments are Unicode texts already.
-/

namespace Suppression.Main

/-- The name and the value of a variable. A name is never empty, so the `=` between them is not
looked for at the beginning. -/
def readEntry? (entry : List Char) : Option (String × String) :=
  let name := entry.take 1 ++ entry.tail.takeWhile (· ≠ '=')
  match entry.drop name.length with
  | '=' :: value => some (String.ofList name, String.ofList value)
  | _ => none

example : readEntry? "sift_filter__patterns=-a=b".toList = some ("sift_filter__patterns", "-a=b") ∧
    readEntry? "=a=b".toList = some ("=a", "b") ∧ readEntry? "HOME".toList = none := by decide

/-- The variables of a block in which a zero ends each of them. Those that are not Unicode are
left out. -/
def readVariables (block : List UInt8) : Environment :=
  (block.splitOn 0).filterMap fun bytes =>
    (String.fromUTF8? ⟨bytes.toArray⟩).bind fun entry => readEntry? entry.toList

/-- Variables to ask for where the system does not list those that are set. -/
def variableNames : List String :=
  ["SIFT_FILTER__PATTERNS", "SIFT_FILTER__INDENT", "SIFT_REPORT__TOOL_NAME",
    "XDG_CONFIG_HOME", "HOME", "CLICOLOR_FORCE", Console.selectionName]

/-- The variables that are set. Any of them may be a setting. -/
def readEnvironment : IO Environment := do
  try return readVariables (← IO.FS.readBinFile "/proc/self/environ").toList
  catch _ =>
    variableNames.filterMapM fun name => do
      return (← IO.getEnv name).map fun value => (name, value)

/-- The files that a run may read or write. -/
def paths (arguments : List String) (environment : Environment) : List String :=
  let settings := Settings.filePath environment
  match Console.readArguments arguments with
  | .ok invocation =>
      settings :: (Settings.fallbackPath? settings).toList ++ invocation.command.paths
  | .error _ => []

/-- A path and the paths of the directories on the way to it. -/
def ways (path : String) : List String :=
  let names := Files.Tree.names path
  (List.range names.length).map fun i => "/".intercalate (names.take (i + 1))

/-- There is a directory at a path. -/
def isDirectory (path : String) : IO Bool := do
  try (← IO.FS.realPath path).isDir catch _ => return false

/-- A tree with what is at a path. -/
def readPath (tree : Files.Tree) (path : String) : IO Files.Tree := do
  if ← isDirectory path then return tree.makeDirectory path
  else
    try return tree.writeFile path (← IO.FS.readBinFile path).toList
    catch _ => return tree

/-- Write the file at a path if it has changed. -/
def writePath (before after : Files.Tree) (path : String) : IO Unit := do
  match after.content path with
  | .error _ => return
  | .ok content =>
      if (before.content path).toOption ≠ some content then
        IO.FS.writeBinFile path ⟨content.toArray⟩

/-- Run the program on the files of the machine. -/
def run (arguments : List String) : IO UInt32 := do
  let environment ← readEnvironment
  let files := paths arguments environment
  let tree ← (files.flatMap ways).foldlM readPath Files.Tree.empty
  let outcome := Console.run arguments environment tree
  files.forM (writePath tree outcome.tree)
  IO.print outcome.output
  outcome.log.forM IO.eprintln
  IO.eprint outcome.errors
  return UInt32.ofNat outcome.code

end Suppression.Main

/-- The entry point of the executable. -/
def main (arguments : List String) : IO UInt32 := Suppression.Main.run arguments
