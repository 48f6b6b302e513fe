import PageTokens.CommandLine.Replace
import PageTokens.CommandLine.Usage

/-!
# Running the program

`Environment.run` is the whole program: it reads the command line, runs the
command, and says what is left behind.
-/

namespace PageTokens

namespace HookPolicy

/-- A policy in one line. -/
def line (policy : HookPolicy) : Text :=
  let word (flag : Bool) : Text := if flag then "on".toList else "off".toList
  Text.line ("automatic: ".toList ++ word policy.automatic ++ ", frontend only: ".toList ++
    word policy.frontendOnly)

end HookPolicy

namespace Token

/-- A token that shows all parts of a token. -/
def sample : Token :=
  ⟨"name".toList,
    (Parameters.none.addPositional (.single "value".toList)).addNamed "key".toList
      (.single "value".toList)⟩

end Token

namespace Problem

/-- A problem with its severity in words. -/
def line (problem : Problem) : Text :=
  (match problem.severity with
    | .error => "error: ".toList
    | .warn => "warning: ".toList) ++ problem.shown

end Problem

namespace Environment

/-- The tokens of a replacer as JSON. -/
def tokensAsJson (setup : Setup Empty Unit) : Text :=
  Text.line ((Data.list (setup.registry.list.map fun definition =>
    definition.listed (setup.replacer.example? ⟨definition.name, .none⟩))).json (some 0))

/-- The tokens of a replacer as a table, with its policy and a sample token. -/
def tokensAsText (setup : Setup Empty Unit) : Text :=
  match setup.registry.list with
  | [] => Text.line "No tokens registered.".toList
  | definitions =>
    Definition.table definitions ++ ['\n'] ++ setup.replacer.policy.line ++
      match setup.replacer.example? Token.sample with
      | some written => Text.line ("token format: ".toList ++ written)
      | none => []

/-- Runs the command that lists the tokens. -/
def listTokens (environment : Environment) (path : Option Path) (format : OutputFormat) : Run :=
  environment.withConfiguration path fun notices configuration =>
    let setup := setUp configuration
    let output := match format with
      | .json => tokensAsJson setup
      | .text => tokensAsText setup
    environment.finish 0 output (notices ++ setup.events.map Notice.event)

/-- Where the configuration comes from. -/
def configurationSource (environment : Environment) (path : Option Path) : Text :=
  (path.or environment.discover?).getD "defaults (no ctr.toml found)".toList

/-- Runs the command that checks the configuration. -/
def check (environment : Environment) (path : Option Path) : Run :=
  environment.withConfiguration path fun notices configuration =>
    if configuration.isValid then
      environment.finish 0
        (Text.line (environment.configurationSource path ++ ": OK (".toList ++
          Text.ofNat configuration.tokens.size ++ " token(s) configured)".toList)) notices
    else
      let note : List Text :=
        if configuration.marks.problems.isEmpty then []
        else ["note: automatic token replacement is disabled until the delimiters are fixed".toList]
      environment.finish failure []
        (notices ++ (configuration.problems.map Problem.line ++ note).map Notice.line)

/-- Runs the command that shows the tokens found in a text. -/
def parse (environment : Environment) (input path : Option Path) : Run :=
  environment.withConfiguration path fun notices configuration =>
    match Delimiters.ofMarks configuration.marks with
    | .error error =>
      environment.fail failure notices ("invalid delimiters: ".toList ++ error.message)
    | .ok delimiters =>
      environment.withText input notices fun text =>
        environment.finish 0
          ((occurrences delimiters text).flatMap fun occurrence =>
            Text.line (occurrence.listed.json none)) notices

/-- Runs a command. -/
def runCommand (environment : Environment) : Command → Run
  | .replace options => environment.replace options
  | .tokens configuration format => environment.listTokens configuration format
  | .check configuration => environment.check configuration
  | .parse input configuration => environment.parse input configuration

/-- Tells why a command line gives no command. What was asked for goes to the
standard output. -/
def explain (environment : Environment) (error : UsageError) : Run :=
  if error.exitCode = 0 then environment.finish 0 (Text.line error.message) []
  else environment.finish error.exitCode [] [.line error.message]

/-- Runs the program on the words of a command line. -/
def run (environment : Environment) (words : List Text) : Run :=
  match CommandLine.read words with
  | .error error => environment.explain error
  | .ok line =>
    { environment.runCommand line.command with
      filter := LogFilter.choose line.verbosity environment.logSetting }

end Environment
end PageTokens
