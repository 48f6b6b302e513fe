import PageTokens.CommandLine.Command

/-!
# Switches of the command line

A switch begins with two dashes, and some have a short form with one dash and
one letter. A switch is a flag or takes a value. `Scope` says which switches and
inputs may stand in a part of the command line.
-/

namespace PageTokens

/-- A switch of the command line. -/
inductive Switch
  | verbose
  | help
  | version
  | directory
  | ending
  | configuration
  | hook
  | admin
  | path
  | requestAttribute
  | noAutomatic
  | allSurfaces
  | inPlace
  | diagnostics
  | strict
  | format
deriving DecidableEq, Repr

namespace Switch

/-- The name of a switch. -/
def long : Switch → Text
  | verbose => "verbose".toList
  | help => "help".toList
  | version => "version".toList
  | directory => "dir".toList
  | ending => "ext".toList
  | configuration => "config".toList
  | hook => "hook".toList
  | admin => "admin".toList
  | path => "path".toList
  | requestAttribute => "attr".toList
  | noAutomatic => "no-automatic".toList
  | allSurfaces => "all-surfaces".toList
  | inPlace => "in-place".toList
  | diagnostics => "diagnostics".toList
  | strict => "strict".toList
  | format => "format".toList

/-- The letter of the short form of a switch. -/
def short? : Switch → Option Char
  | verbose => some 'v'
  | help => some 'h'
  | version => some 'V'
  | configuration => some 'c'
  | _ => none

/-- What the value of a switch is called, for a switch that takes one. -/
def valueName? : Switch → Option Text
  | directory => some "DIR".toList
  | ending => some "EXT".toList
  | configuration => some "CONFIG".toList
  | path => some "PATH".toList
  | requestAttribute => some "KEY=VALUE".toList
  | diagnostics => some "DIAGNOSTICS".toList
  | format => some "FORMAT".toList
  | _ => none

/-- Whether a switch takes a value. -/
def takesValue (switch : Switch) : Bool :=
  switch.valueName?.isSome

/-- A switch as it is shown in messages. -/
def shown (switch : Switch) : Text :=
  "--".toList ++ switch.long ++
    match switch.valueName? with
    | some name => " <".toList ++ name ++ ">".toList
    | none => if switch = verbose then "...".toList else []

end Switch

/-- How many inputs may stand in a part of the command line. -/
inductive Capacity
  | nothing
  | one
  | many
deriving DecidableEq, Repr

/-- What may stand in a part of the command line, and what its inputs are called. -/
structure Scope where
  switches : List Switch
  capacity : Capacity
  inputsShown : Text

/-- The name of a command. -/
inductive CommandName
  | replace
  | tokens
  | check
  | parse
deriving DecidableEq, Repr

namespace CommandName

/-- The commands. -/
def all : List CommandName := [replace, tokens, check, parse]

/-- The word for a command. -/
def name : CommandName → Text
  | replace => "replace".toList
  | tokens => "tokens".toList
  | check => "check".toList
  | parse => "parse".toList

/-- The command for a word. -/
def ofName? (word : Text) : Option CommandName :=
  all.find? fun command => command.name = word

/-- What may follow the word for a command. -/
def scope : CommandName → Scope
  | replace =>
    { switches := [.directory, .ending, .configuration, .hook, .admin, .path, .requestAttribute,
        .noAutomatic, .allSurfaces, .inPlace, .diagnostics, .strict, .verbose, .help]
      capacity := .many
      inputsShown := "[FILES]...".toList }
  | tokens => ⟨[.configuration, .format, .verbose, .help], .nothing, []⟩
  | check => ⟨[.configuration, .verbose, .help], .nothing, []⟩
  | parse => ⟨[.configuration, .verbose, .help], .one, "[INPUT]".toList⟩

end CommandName

/-- What may stand before the word for a command. -/
def Scope.top : Scope := ⟨[.verbose, .help, .version], .nothing, []⟩

end PageTokens
