import PageTokens.CommandLine.Log
import PageTokens.Configuration.Load

/-!
# What a run of the program sees and leaves behind

A run sees files, the standard input and settings of the environment. It leaves
an exit code, the standard output, notices in the order in which they were
given, and the files.
-/

namespace PageTokens

/-- What a run of the program sees. -/
structure Environment extends Surroundings where
  input : Content
  logSetting : Option Text

/-- Something told to the user: an event, or a line that is always shown. -/
inductive Notice
  | event (event : Event)
  | line (text : Text)
deriving DecidableEq

/-- What a run of the program leaves behind. -/
structure Run where
  code : Nat
  output : Text
  notices : List Notice
  files : FileTree
  filter : LogFilter

namespace Environment

/-- A run that leaves the files as they are. -/
def finish (environment : Environment) (code : Nat) (output : Text) (notices : List Notice) :
    Run :=
  ⟨code, output, notices, environment.files, []⟩

/-- A run that ends with a message. -/
def fail (environment : Environment) (code : Nat) (notices : List Notice) (message : Text) : Run :=
  environment.finish code [] (notices ++ [.line ("Error: ".toList ++ message)])

/-- The exit code of a run in which something failed. -/
def failure : Nat := 1

/-- The exit code of a run that was refused for its arguments. -/
def refusal : Nat := 2

/-- Goes on with the configuration, or ends with the reason for which there is none. -/
def withConfiguration (environment : Environment) (path : Option Path)
    (proceed : List Notice → Configuration → Run) : Run :=
  let loading := environment.load path
  let notices := loading.events.map Notice.event
  match loading.result with
  | .ok configuration => proceed notices configuration
  | .error error => environment.fail failure notices error.message

/-- Goes on with the text of a file or of the standard input, or ends with the
reason for which there is none. -/
def withText (environment : Environment) (path : Option Path) (notices : List Notice)
    (proceed : Text → Run) : Run :=
  match path with
  | some path =>
    match environment.files.readText environment.current path with
    | .ok text => proceed text
    | .error error =>
      environment.fail failure notices
        ("Failed to read ".toList ++ Text.inApostrophes path ++ ": ".toList ++ error.message)
  | none =>
    match environment.input.readText with
    | .ok text => proceed text
    | .error error =>
      environment.fail failure notices ("Failed to read stdin: ".toList ++ error.message)

end Environment
end PageTokens
