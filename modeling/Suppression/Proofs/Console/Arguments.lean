import Suppression.Console.Arguments
import Suppression.Proofs.Fallible

/-!
# Options of a filter command

An option that takes a value may be given as two arguments, its name and then the value. What
is read from the arguments of a filter command is what they were made from.
-/

namespace Suppression.Console

/-- An argument that is no option. -/
def IsPlain (argument : String) : Prop := argument.toList.head? ≠ some '-'

namespace Reading

theorem take_of_accepts {reading : Reading} {switch : Switch} {value : String}
    (hnew : switch ∉ reading.here) (haccepts : switch.accepts value)
    (htakes : switch.takesValue) :
    reading.take switch value = .ok { reading with
      here := switch :: reading.here
      values := (switch, value) :: reading.values
      waiting := none } := by
  have hversion : switch ≠ .version := by
    rintro rfl
    cases htakes
  rw [take, if_neg (by simp [hnew, haccepts]), if_neg hversion]

theorem readSwitches_of_isPlain {argument : String} (h : IsPlain argument) (reading : Reading) :
    reading.readSwitches argument = reading.readValue argument := by
  unfold IsPlain at h
  unfold readSwitches
  split <;> simp_all

end Reading

/-- An option can be given with this value as two arguments. -/
structure Giveable (level : Level) (switch : Switch) (value : String) : Prop where
  known : switch ∈ level.switches
  takes : switch.takesValue
  accepted : switch.accepts value
  plain : switch.takesHyphens ∨ IsPlain value

/-- The arguments for options with their values. -/
def optionArguments (options : List (Switch × String)) : List String :=
  options.flatMap fun option => ["--" ++ option.1.name, option.2]

namespace Reading

variable {reading : Reading} {switch : Switch} {value : String}

/-- The name of an option that takes a value lets the reading wait for it. -/
theorem read_name (hwaiting : reading.waiting = none) (hended : reading.ended = false)
    (hlevel : reading.level ≠ .patterns) (h : Giveable reading.level switch value) :
    reading.read ("--" ++ switch.name) = .ok { reading with waiting := some switch } := by
  have hnext : reading.level.next? ("--" ++ switch.name) = none := by
    cases reading.level <;> cases switch <;> rfl
  have hhyphens : reading.takesHyphens = false := by
    cases hcase : reading.level <;> simp_all [takesHyphens, Level.operand]
  have hname : switch.name.toList.takeWhile (· ≠ '=') = switch.name.toList := by
    cases switch <;> decide
  have hstart : switch.name.toList ≠ [] := by
    cases switch <;> decide
  have htext : ("--" ++ switch.name).toList = '-' :: '-' :: switch.name.toList :=
    String.toList_append
  have hread : reading.read ("--" ++ switch.name) = reading.readName switch.name.toList := by
    simp only [read, hended, hwaiting, hnext, readSwitches, htext]
    split <;> simp_all
  rw [hread]
  simp only [readName, hname, String.ofList_toList, List.drop_length,
    Level.switchNamed?_name h.known, h.takes, if_true, await]

theorem read_value (hended : reading.ended = false) (hnew : switch ∉ reading.here)
    (h : Giveable reading.level switch value) :
    ({ reading with waiting := some switch } : Reading).read value = .ok { reading with
      here := switch :: reading.here
      values := (switch, value) :: reading.values
      waiting := none } := by
  have htake : ({ reading with waiting := some switch } : Reading).take switch value = .ok _ :=
    take_of_accepts hnew h.accepted h.takes
  rw [← htake]
  by_cases hhyphens : switch.takesHyphens
  · simp only [read, hended, hhyphens, if_true]
    rfl
  · have hplain := h.plain.resolve_left hhyphens
    simp only [read, hended, hhyphens, readSwitches_of_isPlain hplain]
    rfl

/-- Options that are given once each add their values. -/
theorem foldlM_read_options {options : List (Switch × String)} (hwaiting : reading.waiting = none)
    (hended : reading.ended = false) (hlevel : reading.level ≠ .patterns)
    (hgiveable : ∀ option ∈ options, Giveable reading.level option.1 option.2)
    (hnew : ∀ option ∈ options, option.1 ∉ reading.here)
    (honce : (options.map Prod.fst).Nodup) :
    (optionArguments options).foldlM read reading = .ok { reading with
      here := (options.map Prod.fst).reverse ++ reading.here
      values := options.reverse ++ reading.values } := by
  induction options generalizing reading with
  | nil => rfl
  | cons option options ih =>
      obtain ⟨hoption, hgiveable⟩ := List.forall_mem_cons.mp hgiveable
      obtain ⟨hfresh, hnew⟩ := List.forall_mem_cons.mp hnew
      rw [List.map_cons, List.nodup_cons] at honce
      change (("--" ++ option.1.name) :: option.2 :: optionArguments options).foldlM read reading = _
      rw [List.foldlM_cons, read_name hwaiting hended hlevel hoption, ok_bind, List.foldlM_cons,
        read_value hended hfresh hoption, ok_bind]
      have hfresh : ∀ other ∈ options, other.1 ∉ option.1 :: reading.here := by
        intro other hother
        rw [List.mem_cons, not_or]
        refine ⟨?_, hnew other hother⟩
        intro heq
        exact honce.1 (heq ▸ List.mem_map_of_mem hother)
      refine (@ih { reading with
        here := option.1 :: reading.here
        values := option :: reading.values
        waiting := none } rfl hended hlevel hgiveable hfresh honce.2).trans ?_
      simp [hwaiting]

end Reading

/-- The arguments of a filter command. -/
def filterArguments (input output : String) (patterns : Option String) (indent : Option Nat) :
    List String :=
  "filter" :: optionArguments ([(.input, input), (.output, output)] ++
    (patterns.map (Switch.patterns, ·)).toList ++
    (indent.map fun width => (Switch.indent, toString width)).toList)

example : filterArguments "r" "s" (some "") (some 2) =
    ["filter", "--input", "r", "--output", "s", "--patterns", "", "--indent", "2"] := by
  decide +kernel

theorem exists_head_toString (width : Nat) :
    ∃ c rest, (toString width).toList = c :: rest ∧ c.isDigit := by
  rw [Nat.toString_eq_repr, Nat.toList_repr]
  cases hdigits : Nat.toDigits 10 width with
  | nil => exact absurd hdigits Nat.toDigits_ne_nil
  | cons c rest =>
      exact ⟨c, rest, rfl, Nat.isDigit_of_mem_toDigits (by decide) (by decide)
        (hdigits ▸ List.mem_cons_self)⟩

theorem isPlain_toString (width : Nat) : IsPlain (toString width) := by
  obtain ⟨c, rest, htext, hc⟩ := exists_head_toString width
  rw [IsPlain, htext]
  rintro ⟨⟩
  cases hc

theorem readWidth?_toString {width : Nat} (h : width < Decimal.wordSize) :
    readWidth? (toString width) = some width := by
  have hnatural : Text.natural? (toString width).toList = some width := Text.natural?_repr width
  obtain ⟨c, rest, htext, hc⟩ := exists_head_toString width
  rw [readWidth?]
  rw [htext] at hnatural ⊢
  split
  next hplus =>
    cases hplus
    cases hc
  next =>
    rw [hnatural]
    simp [h]

/-- The arguments of a filter command give what they were made from. -/
theorem readArguments_filterArguments {input output : String} {patterns : Option String}
    {indent : Option Nat} (hinput : IsPlain input ∧ input ≠ "")
    (houtput : IsPlain output ∧ output ≠ "")
    (hindent : ∀ width, indent = some width → width < Decimal.wordSize) :
    readArguments (filterArguments input output patterns indent) =
      .ok { command := .filter input output patterns indent } := by
  have hfilter : ({} : Reading).read "filter" = .ok { level := .filter } := rfl
  have hwidth : ∀ width, indent = some width → readWidth? (toString width) = some width :=
    fun width hwidth => readWidth?_toString (hindent width hwidth)
  have hgiveable : ∀ option ∈ [(Switch.input, input), (.output, output)] ++
      (patterns.map (Switch.patterns, ·)).toList ++
      (indent.map fun width => (Switch.indent, toString width)).toList,
      Giveable .filter option.1 option.2 := by
    intro option hoption
    simp only [List.mem_append, List.mem_cons, List.not_mem_nil, or_false, Option.mem_toList,
      Option.map_eq_some_iff] at hoption
    rcases hoption with ((rfl | rfl) | ⟨text, -, rfl⟩) | ⟨width, hindent, rfl⟩
    · exact ⟨by simp [Level.switches], rfl, by simp [Switch.accepts, hinput.2], .inr hinput.1⟩
    · exact ⟨by simp [Level.switches], rfl, by simp [Switch.accepts, houtput.2], .inr houtput.1⟩
    · exact ⟨by simp [Level.switches], rfl, rfl, .inl rfl⟩
    · refine ⟨by simp [Level.switches], rfl, ?_, .inr (isPlain_toString width)⟩
      rw [Switch.accepts, hwidth width hindent, Option.isSome_some]
  rw [readArguments, filterArguments, List.foldlM_cons, hfilter, ok_bind]
  rw [Reading.foldlM_read_options rfl rfl (by decide) hgiveable (by simp) ?_, ok_bind]
  · -- The width is read from its text only when the command is made up.
    have hindent : ((indent.map fun width => toString width).bind readWidth?) = indent := by
      cases indent with
      | none => rfl
      | some width => exact hwidth width rfl
    calc
      _ = .ok {
          command := .filter input output patterns
            ((indent.map fun width => toString width).bind readWidth?) } := by
        cases patterns <;> cases indent <;> rfl
      _ = _ := by rw [hindent]
  · cases patterns <;> cases indent <;> simp

end Suppression.Console
