import Suppression.Log
import Suppression.Text.Blank
import Suppression.Text.Digits
import Suppression.Text.Pieces

/-!
# Selecting log entries

A selection says which entries of a log are shown. It is a list of directives, each of
which sets a limit for its subject, written `start[occasion{name=value}]=level` with
most parts left out. A subject without an occasion is about all entries of the areas whose
names begin with `start`; of several such subjects the most special one counts. A subject
with an occasion is about the entries that are made on it, and adds them to the others.
-/

namespace Suppression.Log

/-- The less the entries of a level matter, the deeper it is. Lesser depths have no entries. -/
def Level.depth : Level → Nat
  | .warn => 2
  | .info => 3
  | .debug => 4

/-- The names of the limits, each at its own place. -/
def limitNames : List String := ["off", "error", "warn", "info", "debug", "trace"]

/-- A limit that leaves nothing out. -/
def greatestLimit : Nat := 5

/-- The limit that a text names in any case, or spells as a number. -/
def limit? (text : List Char) : Option Nat :=
  let named := limitNames.findIdx? (· = String.ofList (text.map Char.toLower))
  let digits := if text.head? = some '+' then text.tail else text
  named.or ((Text.natural? digits).filter (· ≤ greatestLimit))

/-- A name that entries or occasions carry something under, and the value if it counts. -/
structure Sought where
  /-- The name. -/
  name : String
  /-- The value, unless any will do. -/
  value : Option String
  deriving DecidableEq, Repr

/-- A detail is what is sought. -/
def Sought.accepts (sought : Sought) (detail : Detail) : Bool :=
  detail.name = sought.name && sought.value.all (· = detail.value)

/-- What a directive is about. -/
structure Subject where
  /-- What the names of its areas begin with. -/
  start : String := ""
  /-- The name of its occasions. -/
  occasion : Option String := none
  /-- What is carried. -/
  sought : Option Sought := none
  deriving DecidableEq, Repr

/-- The subject does not depend on an occasion. -/
def Subject.isFixed (subject : Subject) : Bool :=
  subject.occasion.isNone && subject.sought.all fun sought => sought.value.isNone

/-- The subject may be about occasions. -/
def Subject.isOccasional (subject : Subject) : Bool :=
  subject.occasion.isSome || subject.sought.isSome

/-- An area is one of those that the subject is about. -/
def Subject.hasArea (subject : Subject) (area : Area) : Bool :=
  subject.start.toList.isPrefixOf area.name.toList

/-- What is sought is among these names. -/
def Subject.seeks (subject : Subject) (names : List String) : Bool :=
  subject.sought.all fun sought => names.contains sought.name

/-- The subject is about an entry, whatever the occasion. -/
def Subject.hasEntry (subject : Subject) (entry : Entry) : Bool :=
  subject.isFixed && subject.hasArea entry.area && subject.seeks entry.names

/-- The subject is about the entries that are made on an occasion. -/
def Subject.hasOccasion (subject : Subject) (occasion : Occasion) : Bool :=
  subject.isOccasional && subject.hasArea occasion.area &&
    subject.occasion.all (· = occasion.name) && subject.seeks occasion.names

/-- The occasion has the value that is sought. -/
def Subject.isMet (subject : Subject) (occasion : Occasion) : Bool :=
  subject.sought.all fun sought =>
    sought.value.isNone || occasion.details.any sought.accepts

/-- A subject is more special than another one. -/
def Subject.outdoes (subject other : Subject) : Bool :=
  let size := subject.start.utf8ByteSize
  let otherSize := other.start.utf8ByteSize
  let name := (subject.sought.map Sought.name).getD ""
  let otherName := (other.sought.map Sought.name).getD ""
  otherSize < size || (otherSize = size && otherName < name)

/-- A limit for a subject. -/
structure Directive where
  /-- What it is about. -/
  subject : Subject
  /-- The greatest depth that is shown. -/
  limit : Nat
  deriving DecidableEq, Repr

/-- A directive about nothing but its limit, or about the areas of a name. -/
def Directive.ofWord (word : List Char) : Directive :=
  match limit? word with
  | some limit => ⟨{}, limit⟩
  | none => ⟨{ start := String.ofList word }, greatestLimit⟩

/-- A directive may begin with this character. -/
def beginsDirective (c : Char) : Bool :=
  c.isAlphanum || c = '[' || c = '-' || c = ':' || c = '_' || 128 ≤ c.toNat

/-- The text up to the first of some characters, that character, and the text behind it. -/
def upTo? (stops : List Char) (text : List Char) : Option (List Char × Char × List Char) :=
  match text.span (! stops.contains ·) with
  | (front, stop :: rest) => some (front, stop, rest)
  | _ => none

/-- A name, and a value behind `=`. What follows another `=` does not count. -/
def Sought.read? (text : List Char) : Option Sought :=
  match Text.pieces (· = '=') text with
  | name :: value :: _ => some ⟨String.ofList name, some (String.ofList value)⟩
  | _ => if text = [] then none else some ⟨String.ofList text, none⟩

/-- A subject with what stands behind its `[`, and the text behind the `]`. -/
def Subject.narrow? (subject : Subject) (text : List Char) :
    Option (Subject × List Char) := do
  let (name, stop, rest) ← upTo? [']', '\x7b'] text
  if stop = ']' then
    some ({ subject with occasion := some (String.ofList name) }, rest)
  else
    let (inner, _, rest) ← upTo? ['\x7d'] rest
    let sought ← Sought.read? inner
    let occasion := if name = [] then none else some (String.ofList name)
    match rest with
    | ']' :: rest => some ({ subject with occasion, sought := some sought }, rest)
    | _ => none

/-- The directive that a text spells. With a level there may be no blanks around it, and
with blanks in front it is about no area. -/
def Directive.read? (text : List Char) : Option Directive := do
  let trimmed := Text.trim text
  let (start, rest) := trimmed.span fun c => c ≠ '[' ∧ c ≠ '='
  let subject : Subject := { start := String.ofList start }
  let (subject, rest) ← match rest with
    | '[' :: rest => subject.narrow? rest
    | rest => some (subject, rest)
  guard (trimmed.head?.any beginsDirective)
  match rest with
  | [] =>
      if start = trimmed then some (.ofWord text)
      else if text.head?.any Text.isBlank then
        some ⟨{ subject with start := String.ofList text }, greatestLimit⟩
      else some ⟨subject, greatestLimit⟩
  | '=' :: level => do
      guard (trimmed = text)
      some ⟨subject, ← if level = [] then some greatestLimit else limit? level⟩
  | _ => none

/-- Which entries are shown. -/
structure Selection where
  /-- The directives, of which a later one replaces an earlier one of its subject. -/
  directives : List Directive
  deriving DecidableEq, Repr

namespace Selection

/-- Show the areas whose names begin with `start`, up to a level. -/
def upTo (start : String) (level : Level) : Selection := ⟨[⟨{ start }, level.depth⟩]⟩

/-- The selection that a text with commas spells. A text that spells no directive selects
only errors, of which there are none in a log. -/
def read? (text : String) : Option Selection := do
  let words := (Text.pieces (· = ',') text.toList).filter (· ≠ [])
  let directives ← words.mapM Directive.read?
  some ⟨if directives = [] then [⟨{}, 1⟩] else directives⟩

/-- The directives that no later one replaces. -/
def lasting : List Directive → List Directive
  | [] => []
  | directive :: rest =>
      if rest.any (·.subject = directive.subject) then lasting rest
      else directive :: lasting rest

/-- Of two directives, the one about the more special subject. -/
def moreSpecial (best : Option Directive) (directive : Directive) : Option Directive :=
  match best with
  | some other => if other.subject.outdoes directive.subject then other else directive
  | none => directive

/-- The limit of the most special directive about a subject that satisfies `about`. -/
def fixedLimit (selection : Selection) (about : Subject → Bool) : Nat :=
  let found := selection.directives.filter fun directive => about directive.subject
  ((found.foldl moreSpecial none).map Directive.limit).getD 0

/-- No entry deeper than this is shown. A value that is sought may be met later, so it
leaves everything open. -/
def openLimit (selection : Selection) : Nat :=
  if selection.directives.any fun directive =>
    directive.subject.sought.any fun sought => sought.value.isSome then greatestLimit
  else (selection.directives.map Directive.limit).foldl max 0

/-- The limit for the entries that are made on an occasion, if a directive is about it. -/
def occasionLimit? (selection : Selection) (occasion : Occasion) : Option Nat :=
  let found := (lasting selection.directives).filter (·.subject.hasOccasion occasion)
  let met := found.filter (·.subject.isMet occasion)
  if found = [] then none else some ((met.map Directive.limit).foldl max 0)

/-- An occasion is named in front of its entries. -/
def showsOccasion (selection : Selection) (occasion : Occasion) : Bool :=
  let limit := selection.fixedLimit fun subject =>
    subject.isFixed && subject.hasArea occasion.area
  occasion.level.depth ≤ limit ||
    ((selection.occasionLimit? occasion).isSome &&
      occasion.level.depth ≤ selection.openLimit)

/-- An entry that is made on an occasion, or on none, is shown. -/
def shows (selection : Selection) (occasion : Option Occasion) (entry : Entry) : Bool :=
  entry.level.depth ≤ selection.fixedLimit (·.hasEntry entry) ||
    (occasion.filter selection.showsOccasion).any fun occasion =>
      (selection.occasionLimit? occasion).any (entry.level.depth ≤ ·)

end Selection

end Suppression.Log
