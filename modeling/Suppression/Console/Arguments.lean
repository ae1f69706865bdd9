import Suppression.Console.Switch

/-!
# Reading the command line

The arguments are read one after the other. An option that takes a value and stands
alone waits for the next argument. Two hyphens end the options. The first argument that
does not fit ends the reading.

Arguments are Unicode texts, and so are the paths among them. Systems that take other bytes
for paths have arguments that are not described here.
-/

namespace Suppression.Console

/-- Why reading ends early. -/
inductive Stop where
  /-- The arguments do not fit. -/
  | misuse
  /-- The version is asked for. -/
  | version
  deriving DecidableEq, Repr

/-- What has been read so far. -/
structure Reading where
  /-- How far the words have led. -/
  level : Level := .top
  /-- The options of this level. -/
  here : List Switch := []
  /-- All options with their values, the last one first. -/
  values : List (Switch × String) := []
  /-- The option that waits for its value. -/
  waiting : Option Switch := none
  /-- What was given besides options. -/
  operand : Option String := none
  /-- The options have ended. -/
  ended : Bool := false
  deriving DecidableEq, Repr

namespace Reading

/-- Take an option with its value. An option is given once at a level. -/
def take (reading : Reading) (switch : Switch) (value : String) : Except Stop Reading :=
  if switch ∈ reading.here ∨ ¬switch.accepts value then .error .misuse
  else if switch = .version then .error .version
  else .ok { reading with
    here := switch :: reading.here, values := (switch, value) :: reading.values, waiting := none }

/-- The option waits for its value. -/
def await (reading : Reading) (switch : Switch) : Except Stop Reading :=
  .ok { reading with waiting := some switch }

/-- Read the letters of an argument. What stands behind the letter of an option with a
value is the value. -/
def readLetters (reading : Reading) : List Char → Except Stop Reading
  | [] => .ok reading
  | letter :: rest =>
      match reading.level.switchLettered? letter with
      | none => .error .misuse
      | some switch =>
          if switch.takesValue then
            match rest with
            | [] => reading.await switch
            | '=' :: value => reading.take switch (String.ofList value)
            | value => reading.take switch (String.ofList value)
          else
            match reading.take switch "" with
            | .error stop => .error stop
            | .ok reading => readLetters reading rest

/-- Read the name of an option, which an equals sign separates from its value. -/
def readName (reading : Reading) (text : List Char) : Except Stop Reading :=
  let name := text.takeWhile (· ≠ '=')
  match reading.level.switchNamed? (String.ofList name), text.drop name.length with
  | none, _ => .error .misuse
  | some switch, [] => if switch.takesValue then reading.await switch else reading.take switch ""
  | some switch, _ :: value =>
      if switch.takesValue then reading.take switch (String.ofList value) else .error .misuse

/-- A level takes one operand. -/
def takesOperand (reading : Reading) : Bool :=
  reading.operand = none &&
    (reading.level.operand = .path || reading.level.operand = .filter)

/-- The operand may begin with a hyphen. -/
def takesHyphens (reading : Reading) : Bool :=
  reading.takesOperand && reading.level.operand = .filter

/-- Read an argument that is no option and no level. -/
def readOperand (reading : Reading) (argument : String) : Except Stop Reading :=
  if reading.waiting.isSome ∨ ¬reading.takesOperand ∨
      (reading.level.operand = .path ∧ argument = "") then .error .misuse
  else .ok { reading with operand := some argument }

/-- Read an argument that is no option in front of the end of the options. -/
def readValue (reading : Reading) (argument : String) : Except Stop Reading :=
  match reading.waiting with
  | some switch => reading.take switch argument
  | none => reading.readOperand argument

/-- Read an argument that may be options. -/
def readSwitches (reading : Reading) (argument : String) : Except Stop Reading :=
  match argument.toList with
  | ['-', '-'] => .ok { reading with ended := true }
  | '-' :: '-' :: text =>
      let name := String.ofList (text.takeWhile (· ≠ '='))
      if reading.takesHyphens ∧ ¬reading.level.knowsName name then
        reading.readValue argument
      else if reading.waiting.isSome then .error .misuse
      else reading.readName text
  | '-' :: letter :: text =>
      if reading.takesHyphens ∧ ¬(letter :: text).all reading.level.knowsLetter then
        reading.readValue argument
      else if reading.waiting.isSome then .error .misuse
      else reading.readLetters (letter :: text)
  | _ => reading.readValue argument

/-- Read one argument. -/
def read (reading : Reading) (argument : String) : Except Stop Reading :=
  if reading.ended then reading.readOperand argument
  else
    match reading.waiting with
    | some switch =>
        if switch.takesHyphens then reading.take switch argument
        else reading.readSwitches argument
    | none =>
        match reading.level.next? argument with
        | some level => .ok { reading with level := level, here := [] }
        | none => reading.readSwitches argument

/-- The value of an option. The last one counts. -/
def value? (reading : Reading) (switch : Switch) : Option String :=
  reading.values.lookup switch

/-- The command that was read. -/
def command? (reading : Reading) : Option Command :=
  match reading.level with
  | .filter => do
      return .filter (← reading.value? .input) (← reading.value? .output)
        (reading.value? .patterns) ((reading.value? .indent).bind readWidth?)
  | .summary => do return .summary (← reading.operand) (reading.value? .report)
  | .patterns => do return .patterns (← reading.operand)
  | .configPath => some .configPath
  | .configShow => some .configShow
  | _ => none

/-- The invocation that was read. -/
def invocation? (reading : Reading) : Option Invocation :=
  if reading.waiting.isSome then none
  else reading.command?.map fun command => {
    command := command
    format := ((reading.value? .format).bind Format.ofName?).getD .text
    quiet := (reading.value? .quiet).isSome
    verbose := (reading.value? .verbose).isSome }

end Reading

/-- Read all arguments. -/
def readArguments (arguments : List String) : Except Stop Invocation := do
  let reading ← arguments.foldlM Reading.read ({} : Reading)
  match reading.invocation? with
  | some invocation => return invocation
  | none => .error .misuse

end Suppression.Console
