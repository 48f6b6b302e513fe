import PageTokens.CommandLine.Switch
import PageTokens.CommandLine.Terminal

/-!
# Reading a command line

The words are read from left to right. A value is looked at when the next switch
or the end of the command line is reached, so of two mistakes the earlier one is
reported, except that a switch or input that nobody knows is reported at once.
After two dashes alone every word is an input.
-/

namespace PageTokens

/-- The reason for which a command line gives no command. -/
inductive UsageError
  | unknownArgument (argument : Text)
  | missingValue (argument : Text)
  | invalidValue (value argument : Text)
  | refusedValue (value argument reason : Text)
  | repeated (argument : Text)
  | unexpectedValue (value argument : Text)
  | unknownCommand (word : Text)
  | missingCommand
  | helpAsked
  | helpNeeded
  | versionAsked
deriving DecidableEq

namespace UsageError

/-- What the program is for, in one line. -/
def about : Text :=
  "Cacheable token replacements - substitute placeholder tokens in rendered output".toList

/-- What stands behind the text of every error: where to find help. -/
def advice : List Text :=
  ["\n\nFor more information, try \x27".toList, "--help".toList, "\x27.".toList]

/-- The parts of the text of an error that differ in style from their neighbours. -/
def parts : UsageError → List Text
  | unknownArgument argument =>
    ["error: unexpected argument \x27".toList, argument, "\x27 found".toList]
  | missingValue argument =>
    ["error: a value is required for \x27".toList, argument, "\x27 but none was supplied".toList]
  | invalidValue value argument =>
    ["error: invalid value \x27".toList, value, "\x27 for \x27".toList, argument, "\x27".toList]
  | refusedValue value argument reason =>
    ["error: invalid value \x27".toList, value, "\x27 for \x27".toList, argument,
      "\x27: ".toList ++ reason]
  | repeated argument =>
    ["error: the argument \x27".toList, argument, "\x27 cannot be used multiple times".toList]
  | unexpectedValue value argument =>
    ["error: unexpected value \x27".toList, value, "\x27 for \x27".toList, argument,
      "\x27 found; no more were expected".toList]
  | unknownCommand word => ["error: unrecognized subcommand \x27".toList, word, "\x27".toList]
  | missingCommand =>
    ["error: \x27".toList, "ctr".toList,
      "\x27 requires a subcommand but one was not provided".toList]
  | helpAsked | helpNeeded => [about]
  | versionAsked => ["ctr 0.1.0".toList]

/-- Whether an error asks for something that is no mistake. -/
def isRequest : UsageError → Bool
  | helpAsked | helpNeeded | versionAsked => true
  | _ => false

/-- Two rows of parts in one, the last part of the first and the first part of
the second in the same style. -/
def chain : List Text → List Text → List Text
  | [last], first :: rest => (last ++ first) :: rest
  | [], rest => rest
  | part :: parts, rest => part :: chain parts rest

/-- The text of an error without commands to a terminal. A change of style ends
a command that has been left open. -/
def message (error : UsageError) : Text :=
  (if error.isRequest then error.parts else chain error.parts advice).flatMap Terminal.shown

/-- The exit code of an error. Help and version that were asked for are no failures. -/
def exitCode : UsageError → Nat
  | helpAsked | versionAsked => 0
  | _ => 2

end UsageError

/-- A key and a value with an equals sign between them. -/
def Attribute.read (word : Text) : Except Text (Text × Text) :=
  match Text.cut? "=".toList word with
  | none =>
    .error ("invalid KEY=VALUE: no ".toList ++ Text.inApostrophes "=".toList ++ " in ".toList ++
      Text.inApostrophes word)
  | some ([], _) =>
    .error ("invalid KEY=VALUE: empty key in ".toList ++ Text.inApostrophes word)
  | some (key, value) => .ok (key, value)

namespace Switch

/-- Whether a value is one that a switch takes. -/
def checkValue (switch : Switch) (value : Text) : Except UsageError Unit :=
  match switch with
  | .directory | .configuration =>
    if value.isEmpty then .error (.missingValue switch.shown) else .ok ()
  | .diagnostics | .format =>
    if value.isEmpty then .error (.missingValue switch.shown)
    else if (OutputFormat.ofName? value).isSome then .ok ()
    else .error (.invalidValue value switch.shown)
  | .requestAttribute =>
    match Attribute.read value with
    | .ok _ => .ok ()
    | .error reason => .error (.refusedValue value switch.shown reason)
  | _ => .ok ()

end Switch

/-- What a word is kept for until the next switch. -/
inductive Slot
  | switch (switch : Switch)
  | inputs
deriving DecidableEq

/-- What a part of the command line has brought so far. -/
structure Gathered where
  verbosity : Option Nat
  flags : List Switch
  values : List (Switch × Text)
  inputs : List Text

namespace Gathered

/-- Nothing yet. -/
def empty : Gathered := ⟨none, [], [], []⟩

/-- The value of a switch. -/
def value? (gathered : Gathered) (switch : Switch) : Option Text :=
  (gathered.values.find? fun entry => entry.1 = switch).map Prod.snd

/-- Whether a flag was given. -/
def has (gathered : Gathered) (switch : Switch) : Bool :=
  gathered.flags.contains switch

end Gathered

/-- How far a part of the command line has been read. -/
structure Progress where
  gathered : Gathered
  pending : Option (Slot × List Text)
  trailing : Bool
  inputCount : Nat

namespace Progress

/-- Nothing has been read. -/
def start : Progress := ⟨.empty, none, false, 0⟩

/-- Takes the words kept for a slot. -/
def take (scope : Scope) (progress : Progress) : Slot → List Text → Except UsageError Progress
  | .inputs, words =>
    if words.any List.isEmpty then .error (.missingValue scope.inputsShown)
    else
      .ok { progress with
        gathered := { progress.gathered with inputs := progress.gathered.inputs ++ words } }
  | .switch switch, words => do
    if words.isEmpty then throw (.missingValue switch.shown)
    if switch ≠ .requestAttribute ∧ (progress.gathered.value? switch).isSome then
      throw (.repeated switch.shown)
    words.forM switch.checkValue
    pure { progress with
      gathered := { progress.gathered with
        values := progress.gathered.values ++ words.map fun word => (switch, word) } }

/-- Takes what has been kept. -/
def settle (scope : Scope) (progress : Progress) : Except UsageError Progress :=
  match progress.pending with
  | none => .ok progress
  | some (slot, words) => take scope { progress with pending := none } slot words

/-- The greatest verbosity. -/
def maximumVerbosity : Nat := 255

/-- Raises a flag. -/
def raise (scope : Scope) (progress : Progress) (switch : Switch) :
    Except UsageError Progress := do
  let settled ← progress.settle scope
  match switch with
  | .help => throw .helpAsked
  | .version => throw .versionAsked
  | .verbose =>
    let count := min maximumVerbosity (settled.gathered.verbosity.getD 0 + 1)
    pure { settled with gathered := { settled.gathered with verbosity := some count } }
  | other =>
    if settled.gathered.has other then throw (.repeated other.shown)
    pure { settled with
      gathered := { settled.gathered with flags := settled.gathered.flags ++ [other] } }

/-- Takes a switch with its value, or keeps it until its value comes. -/
def begin (scope : Scope) (progress : Progress) (switch : Switch) (value : Option Text) :
    Except UsageError Progress := do
  let settled ← progress.settle scope
  match value with
  | some word => settled.take scope (.switch switch) [word]
  | none => pure { settled with pending := some (.switch switch, []) }

/-- Reads a word with two dashes. -/
def readLong (scope : Scope) (progress : Progress) (body : Text) : Except UsageError Progress :=
  let (name, value) : Text × Option Text :=
    match Text.cut? "=".toList body with
    | some (name, value) => (name, some value)
    | none => (body, none)
  match scope.switches.find? fun switch => switch.long = name with
  | none => .error (.unknownArgument ("--".toList ++ name))
  | some switch =>
    if switch.takesValue then progress.begin scope switch value
    else
      match value with
      | some word => .error (.unexpectedValue word switch.shown)
      | none => progress.raise scope switch

/-- Reads the letters of a word with one dash. -/
def readShort (scope : Scope) (progress : Progress) : Text → Except UsageError Progress
  | [] => .ok progress
  | letter :: rest =>
    match scope.switches.find? fun switch => switch.short? = some letter with
    | none => .error (.unknownArgument ['-', letter])
    | some switch =>
      if switch.takesValue then
        progress.begin scope switch <|
          match rest with
          | [] => none
          | '=' :: value => some value
          | value => some value
      else do
        let raised ← progress.raise scope switch
        readShort scope raised rest

/-- Reads an input. `unplaced` is reported when there is no place for it. -/
def readInput (scope : Scope) (progress : Progress) (word : Text) (unplaced : UsageError) :
    Except UsageError Progress :=
  match scope.capacity, progress.pending with
  | .nothing, _ => .error unplaced
  | .many, some (.inputs, words) =>
    .ok { progress with pending := some (.inputs, words ++ [word]) }
  | .one, _ | .many, _ =>
    if scope.capacity = .one ∧ 0 < progress.inputCount then .error unplaced
    else do
      let settled ← progress.settle scope
      pure { settled with
        pending := some (.inputs, [word])
        inputCount := settled.inputCount + 1 }

/-- Reads a word. -/
def readWord (scope : Scope) (progress : Progress) (word : Text) (unplaced : UsageError) :
    Except UsageError Progress :=
  if progress.trailing then progress.readInput scope word unplaced
  else
    match word, progress.pending with
    | ['-', '-'], _ => .ok { progress with trailing := true }
    | '-' :: '-' :: body, _ => progress.readLong scope body
    | '-' :: letter :: rest, _ => progress.readShort scope (letter :: rest)
    | _, some (.switch switch, []) =>
      .ok { progress with pending := some (.switch switch, [word]) }
    | _, _ => progress.readInput scope word unplaced

/-- Reads all words that follow the word for a command. -/
def readAll (scope : Scope) (progress : Progress) : List Text → Except UsageError Gathered
  | [] => do
    let settled ← progress.settle scope
    pure settled.gathered
  | word :: rest => do
    let next ← progress.readWord scope word (.unknownArgument word)
    readAll scope next rest

end Progress

namespace CommandName

/-- The command with the options that were gathered for it. -/
def command (gathered : Gathered) : CommandName → Command
  | replace =>
    .replace
      { files := gathered.inputs
        directory := gathered.value? .directory
        ending := (gathered.value? .ending).getD "html".toList
        configuration := gathered.value? .configuration
        hook := gathered.has .hook
        admin := gathered.has .admin
        path := gathered.value? .path
        attributes := gathered.values.filterMap fun (switch, value) =>
          if switch = .requestAttribute then (Attribute.read value).toOption else none
        noAutomatic := gathered.has .noAutomatic
        allSurfaces := gathered.has .allSurfaces
        inPlace := gathered.has .inPlace
        diagnostics := (gathered.value? .diagnostics).bind OutputFormat.ofName?
        strict := gathered.has .strict }
  | tokens =>
    .tokens (gathered.value? .configuration)
      (((gathered.value? .format).bind OutputFormat.ofName?).getD .text)
  | check => .check (gathered.value? .configuration)
  | parse => .parse gathered.inputs.head? (gathered.value? .configuration)

/-- The word that asks for help. -/
def helpWord : Text := "help".toList

/-- Whether a word stands for a command or asks for help. -/
def isKnown (word : Text) : Bool :=
  (ofName? word).isSome || word = helpWord

end CommandName

namespace CommandLine

/-- What is reported when help is asked for with some words. -/
def helpFor : List Text → UsageError
  | [] => .helpAsked
  | [word] => if CommandName.isKnown word then .helpAsked else .unknownCommand word
  | word :: next :: _ =>
    .unknownCommand (if CommandName.isKnown word then next else word)

/-- Reads the words up to the word for a command, and the words for the command. -/
def readFrom (progress : Progress) : List Text → Except UsageError CommandLine
  | [] =>
    .error (if progress.gathered.verbosity.isSome then .missingCommand else .helpNeeded)
  | word :: rest =>
    let unplaced : UsageError :=
      if progress.trailing ∧ CommandName.isKnown word then .unknownArgument word
      else .unknownCommand word
    if progress.trailing then .error unplaced
    else
      match CommandName.ofName? word with
      | some name => do
        let gathered ← Progress.start.readAll name.scope rest
        let verbosity := gathered.verbosity.or progress.gathered.verbosity
        pure ⟨verbosity.getD 0, name.command gathered⟩
      | none =>
        if word = CommandName.helpWord then .error (helpFor rest)
        else do
          let next ← progress.readWord Scope.top word unplaced
          readFrom next rest

/-- Reads a command line without the name of the program. -/
def read (words : List Text) : Except UsageError CommandLine :=
  readFrom .start words

end CommandLine
end PageTokens
