import Suppression.Filter.Words
import Suppression.Filter.Pattern
import Suppression.Log

/-!
# Filters

A filter compiles to the list of its patterns. Of the patterns that describe a finding
the last one decides whether it is kept; a finding that none describes is kept.
-/

namespace Suppression.Filter

/-- The patterns of a filter, or what is wrong with the first expression that is none. -/
def compile (filter : String) : Except Pattern.Error (List Pattern) :=
  (words filter).mapM Pattern.parse

/-- The patterns of the leading words that are expressions. -/
def parseLeading : List String → List Pattern
  | [] => []
  | word :: rest =>
      match Pattern.parse word with
      | .ok pattern => pattern :: parseLeading rest
      | .error _ => []

/-- What compiling reports about a pattern. -/
def announcement (pattern : Pattern) : Log.Entry :=
  Log.info .patterns ("files: " ++ pattern.file.source ++ ", rules: " ++ pattern.rule.source ++
    " (include: " ++ (if pattern.keeps then "true" else "false") ++ ")")

/-- The log of compiling a filter: its patterns, up to the first bad expression. -/
def compileLog (filter : String) : List Log.Entry :=
  (parseLeading (words filter)).map announcement

/-- The patterns keep a finding of `rule` in the file `uri`. -/
def keeps (patterns : List Pattern) (uri rule : String) : Bool :=
  patterns.foldl
    (fun kept pattern => if pattern.describes uri rule then pattern.keeps else kept) true

/-- The last pattern that describes a finding decides. -/
theorem keeps_concat (patterns : List Pattern) (pattern : Pattern) (uri rule : String) :
    keeps (patterns ++ [pattern]) uri rule =
      if pattern.describes uri rule then pattern.keeps else keeps patterns uri rule := by
  unfold keeps
  rw [List.foldl_append]
  rfl

end Suppression.Filter
