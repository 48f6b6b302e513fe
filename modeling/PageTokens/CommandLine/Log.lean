import PageTokens.Event
import PageTokens.Text.Blank
import PageTokens.Text.Cut
import PageTokens.Text.LetterTable

/-!
# The log

The program writes events to its log when a filter admits them. A filter is a
list of directives, each a level for the events of a target or of everything; of
the directives that fit an event, the closest one decides. The filter follows
from the verbosity, or from a text in the environment, which wins.
-/

namespace PageTokens

/-- The least important level that is written; nothing is written without one. -/
abbrev LogLimit := Option Level

namespace LogLimit

/-- The limit for a verbosity. -/
def ofVerbosity : Nat → LogLimit
  | 0 => some .warn
  | 1 => some .info
  | 2 => some .debug
  | _ => some .trace

/-- The name of a limit. -/
def name (limit : LogLimit) : Text :=
  match limit with
  | none => "off".toList
  | some level => level.name.map Char.toLower

/-- The number of a limit, the strictest first. -/
def number (limit : LogLimit) : Nat :=
  (limit.map Level.rank).getD 0

/-- The limits, the strictest first. -/
def all : List LogLimit :=
  [none, some .error, some .warn, some .info, some .debug, some .trace]

/-- A number that is written in digits, with a plus sign or without. -/
def numeral? (word : Text) : Option Nat :=
  let digits := match word with
    | '+' :: rest => rest
    | _ => word
  if digits.isEmpty || !digits.all Char.isDigit then none
  else some (digits.foldl (fun number digit => 10 * number + (digit.toNat - 0x30)) 0)

/-- The limit for a name, in capitals or not, or for its number. -/
def ofWord? (word : Text) : Option LogLimit :=
  all.find? fun limit =>
    name limit = word.map Char.toLower || numeral? word = some limit.number

/-- The limit behind an equals sign. Without a word there is none. -/
def ofSetting? (word : Text) : Option LogLimit :=
  if word.isEmpty then some (some .trace) else ofWord? word

/-- Whether events of a level are written. -/
def includes (limit : LogLimit) (level : Level) : Bool :=
  limit.any fun least => level.rank ≤ least.rank

end LogLimit

/-- A limit for the events of a target that have a field. Without a target or
field it is for all of them. A confined directive is for what happens within
some span of time alone; the program has no such spans. -/
structure LogDirective where
  target : Option Text
  field : Option Text
  confined : Bool
  limit : LogLimit

namespace LogDirective

/-- A limit for everything. -/
def general (limit : LogLimit) : LogDirective := ⟨none, none, false, limit⟩

/-- Whether a directive may begin with a character. -/
def mayBegin (char : Char) : Bool :=
  Text.inRanges Text.LetterTable.alphanumeric char.toNat || char = '_' || char = ':' || char = '-'

/-- The part of a text between two positions, counted in bytes. -/
def part (word : Text) (first last : Nat) : Text :=
  (word.takeBytes last).dropBytes first

/-- Reads what follows the target and its conditions: nothing, or a level. The
rest of the word begins at byte `position`. -/
def readLimit? (word : Text) (position : Nat) : Text → Option LogLimit
  | [] => some (some .trace)
  | '=' :: _ => LogLimit.ofSetting? (word.dropBytes (position + 1))
  | _ :: _ => none

/-- Reads the conditions of a directive behind an opening bracket at byte `start`:
the name of a span, and a field with or without a value between braces. -/
def readConditions? (word : Text) (target : Option Text) (start : Nat) (rest : Text) :
    Option LogDirective := do
  let span := rest.takeWhile fun char => char ≠ ']' && char ≠ '\x7b'
  let last := start + Text.byteLength span
  match rest.drop span.length with
  | ']' :: after =>
    let limit ← readLimit? word (last + 1) after
    some ⟨target, none, true, limit⟩
  | '\x7b' :: after =>
    let inner := after.takeWhile (· ≠ '\x7d')
    let final := last + 1 + Text.byteLength inner
    match after.drop inner.length with
    | '\x7d' :: ']' :: behind =>
      let condition := part word (last + 1) final
      let limit ← readLimit? word (final + 2) behind
      let field := condition.takeWhile (· ≠ '=')
      if condition.isEmpty then none
      else
        some ⟨target, some field, !(part word start last).isEmpty || condition.any (· = '='), limit⟩
    | _ => none
  | _ => none

/-- Reads a directive. A single word is a level or a target; a target without a
level stands for all levels. The directive is looked through without the blanks
around it, but its parts are taken from the same bytes of the whole word. -/
def read? (word : Text) : Option LogDirective :=
  let trimmed := Text.trim word
  match trimmed with
  | [] => none
  | '[' :: rest => readConditions? word none 1 rest
  | first :: _ =>
    let target := trimmed.takeWhile fun char => char ≠ '=' && char ≠ '['
    let last := Text.byteLength target
    if !mayBegin first then none
    else
      match trimmed.drop target.length with
      | '[' :: rest => readConditions? word (some (part word 0 last)) (last + 1) rest
      | '=' :: rest =>
        (readLimit? word last ('=' :: rest)).map fun limit =>
          ⟨some (part word 0 last), none, false, limit⟩
      | _ =>
        match LogLimit.ofWord? word with
        | some limit => some (general limit)
        | none => some ⟨some word, none, false, some .trace⟩

/-- Whether a directive is for an event. -/
def fits (directive : LogDirective) (event : Event) : Bool :=
  !directive.confined &&
    directive.target.all (fun target => target.isPrefixOf event.source) &&
    directive.field.all event.fieldNames.contains

/-- How closely a directive fits: by the length of its target, then by its field. -/
def closeness (directive : LogDirective) : Nat × Nat :=
  ((directive.target.map fun target => target.byteLength + 1).getD 0,
    if directive.field.isSome then 1 else 0)

/-- Whether a directive is farther from an event than another one. Of two
directives with different fields the one with the lesser field is farther. -/
def isFarther (first second : LogDirective) : Bool :=
  if first.closeness.1 ≠ second.closeness.1 then first.closeness.1 < second.closeness.1
  else if first.closeness.2 ≠ second.closeness.2 then first.closeness.2 < second.closeness.2
  else decide (first.field.getD [] < second.field.getD [])

/-- The closer one of two directives, the later one when they are equally close. -/
def closer (first second : LogDirective) : LogDirective :=
  if second.isFarther first then first else second

end LogDirective

/-- Which events are written to the log. -/
abbrev LogFilter := List LogDirective

namespace LogFilter

/-- The filter for a verbosity. -/
def ofVerbosity (verbosity : Nat) : LogFilter :=
  [.general (.ofVerbosity verbosity)]

/-- Reads a filter: directives with commas between them. A text without any
directive stands for errors alone. -/
def read? (text : Text) : Option LogFilter :=
  let words := (Text.split ",".toList text).filter fun word => !word.isEmpty
  if words.isEmpty then some [.general (some .error)] else words.mapM LogDirective.read?

/-- The filter for a verbosity and the text in the environment. A text that cannot
be read does not count. -/
def choose (verbosity : Nat) (setting : Option Text) : LogFilter :=
  (setting.bind read?).getD (ofVerbosity verbosity)

/-- Whether an event is written. -/
def admits (filter : LogFilter) (event : Event) : Bool :=
  match filter.filter fun directive => directive.fits event with
  | [] => false
  | first :: rest => (rest.foldl LogDirective.closer first).limit.includes event.level

end LogFilter
end PageTokens
