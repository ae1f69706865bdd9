import Suppression.Console.Invocation
import Suppression.Decimal.Limits
import Suppression.Text.Digits

/-!
# Options of the command line

An option has a long name and often a letter. Some take a value. The arguments lead from
level to level: a word names the next level, and each level knows its own options.
-/

namespace Suppression.Console

/-- An option of the command line. -/
inductive Switch where
  | format
  | quiet
  | verbose
  | version
  | input
  | output
  | patterns
  | indent
  | report
  deriving DecidableEq, Repr

namespace Switch

/-- The name that stands behind two hyphens. -/
def name : Switch → String
  | .format => "format"
  | .quiet => "quiet"
  | .verbose => "verbose"
  | .version => "version"
  | .input => "input"
  | .output => "output"
  | .patterns => "patterns"
  | .indent => "indent"
  | .report => "report"

/-- The letter that stands behind one hyphen. -/
def letter? : Switch → Option Char
  | .format => some 'f'
  | .quiet => some 'q'
  | .verbose => some 'v'
  | .version => some 'V'
  | .input => some 'i'
  | .patterns => some 'p'
  | _ => none

/-- The option takes a value. -/
def takesValue : Switch → Bool
  | .quiet => false
  | .verbose => false
  | .version => false
  | _ => true

/-- The value may begin with a hyphen. -/
def takesHyphens : Switch → Bool
  | .patterns => true
  | _ => false

end Switch

/-- The decimal digits of a whole number of 64 bits, with or without a plus. -/
def readWidth? (text : String) : Option Nat :=
  let digits := match text.toList with
    | '+' :: digits => digits
    | digits => digits
  (Text.natural? digits).filter (· < Decimal.wordSize)

/-- The option can have this value. -/
def Switch.accepts (value : String) : Switch → Bool
  | .format => (Format.ofName? value).isSome
  | .indent => (readWidth? value).isSome
  | .patterns => true
  | .quiet => true
  | .verbose => true
  | .version => true
  | _ => value ≠ ""

/-- How far the words have led. -/
inductive Level where
  | top
  | filter
  | summary
  | patterns
  | config
  | configPath
  | configShow
  deriving DecidableEq, Repr

/-- What a level takes besides its options. -/
inductive Operand where
  /-- Nothing. -/
  | nothing
  /-- A path. -/
  | path
  /-- A filter, which may begin with a hyphen. -/
  | filter
  /-- The word for the next level. -/
  | word
  deriving DecidableEq, Repr

namespace Level

/-- The options that every level knows. -/
def commonSwitches : List Switch := [.format, .quiet, .verbose]

/-- The options that a level knows. -/
def switches : Level → List Switch
  | .top => .version :: commonSwitches
  | .filter => [.input, .output, .patterns, .indent] ++ commonSwitches
  | .summary => .report :: commonSwitches
  | _ => commonSwitches

/-- What a level takes besides its options. -/
def operand : Level → Operand
  | .top => .word
  | .config => .word
  | .summary => .path
  | .patterns => .filter
  | _ => .nothing

/-- The level that a word leads to. -/
def next? (level : Level) (word : String) : Option Level :=
  match level, word with
  | .top, "filter" => some .filter
  | .top, "summary" => some .summary
  | .top, "patterns" => some .patterns
  | .top, "config" => some .config
  | .config, "path" => some .configPath
  | .config, "show" => some .configShow
  | _, _ => none

/-- The option with a name. -/
def switchNamed? (level : Level) (name : String) : Option Switch :=
  level.switches.find? (·.name = name)

/-- The option with a letter. -/
def switchLettered? (level : Level) (letter : Char) : Option Switch :=
  level.switches.find? (·.letter? = some letter)

/-- Every option of a level is found by its name. -/
theorem switchNamed?_name {level : Level} {switch : Switch} (h : switch ∈ level.switches) :
    level.switchNamed? switch.name = some switch := by
  have hall : ∀ switch ∈ level.switches, level.switchNamed? switch.name = some switch := by
    cases level <;> decide
  exact hall switch h

/-- The name that asks for help. -/
def helpName : String := "help"

/-- The letter that asks for help. -/
def helpLetter : Char := 'h'

/-- The name means something at this level. -/
def knowsName (level : Level) (name : String) : Bool :=
  name = helpName || (level.switchNamed? name).isSome

/-- The letter means something at this level. -/
def knowsLetter (level : Level) (letter : Char) : Bool :=
  letter = helpLetter || (level.switchLettered? letter).isSome

end Level

end Suppression.Console
