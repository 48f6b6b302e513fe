import PageTokens.CommandLine.Command
import PageTokens.CommandLine.Environment
import PageTokens.CommandLine.Listing
import PageTokens.Files.Glob

/-!
# The command that replaces tokens

Each input is processed once, in the order of the paths without detours. An
input that cannot be read or written does not keep the others from being
processed. Files change only when their tokens are replaced in place.
-/

namespace PageTokens

/-- A pass without host code. -/
abbrev PlainPass := Pass Empty Unit

/-- A replacer without host code. -/
abbrev PlainReplacer := Replacer Empty Unit

namespace Path

/-- Paths in the order of what they name, each time only the first of those that
name the same. -/
def dropRepeats (name : Path → Path) : List Path → List Path
  | [] => []
  | [only] => [only]
  | first :: second :: rest =>
    if (name first).components = (name second).components then dropRepeats name (first :: rest)
    else first :: dropRepeats name (second :: rest)
termination_by paths => paths.length

/-- The paths sorted by what they name, without repetitions. -/
def distinct (name : Path → Path) (paths : List Path) : List Path :=
  dropRepeats name (paths.mergeSort fun left right => (name left).isAtMost (name right))

end Path

namespace ReplaceOptions

/-- The request that the options describe. -/
def request (options : ReplaceOptions) : Request :=
  { surface := if options.admin then .admin else .frontend
    path := options.path
    attributes := Dictionary.ofList options.attributes }

/-- The configuration with the switches that the options turn off. -/
def adjust (options : ReplaceOptions) (configuration : Configuration) : Configuration :=
  configuration.override (if options.noAutomatic then some false else none)
    (if options.allSurfaces then some false else none)

/-- The inputs that the options name, or the reason for which they are refused.
Without inputs the standard input is processed. -/
def inputs (options : ReplaceOptions) (environment : Environment) : Except Text (List Path) := do
  if options.hook && options.diagnostics.isSome then
    throw "--diagnostics is only available in manual mode (without --hook)".toList
  let found ← match options.directory with
    | none => pure options.files
    | some directory =>
      if !environment.files.isDirectory environment.current directory then
        throw (Text.inApostrophes directory ++ " is not a directory".toList)
      let found := options.files ++
        Glob.filesWithEnding environment.files environment.current directory options.ending
      if found.isEmpty then
        throw ("No .".toList ++ options.ending ++ " files found in ".toList ++
          Text.inApostrophes directory)
      pure found
  if options.inPlace && found.isEmpty then
    throw "--in-place requires input files".toList
  pure (Path.distinct (environment.files.canonical environment.current) found)

end ReplaceOptions

/-- The reason for which an input failed. A pass whose text could not be written
has been made. -/
inductive InputError
  | unread (error : FileError)
  | unwritten (error : FileError) (pass : PlainPass)

namespace InputError

/-- What is told about an input that failed. -/
def line (source : Path) : InputError → Text
  | unread error =>
    "Error: Failed to read ".toList ++ Text.inApostrophes source ++ ": ".toList ++ error.message
  | unwritten error _ =>
    "Error: Failed to write ".toList ++ Text.inApostrophes source ++ ": ".toList ++ error.message

end InputError

/-- What came of one input. -/
structure Processed where
  source : Path
  result : Except InputError PlainPass

/-- What came of several inputs, and the files behind it. -/
structure Batch where
  processed : List Processed
  files : FileTree

namespace Replacer

/-- Replaces the tokens of a text, under the policy or whatever it says. -/
def process {H σ : Type} (replacer : Replacer H σ) (underPolicy : Bool) (request : Request)
    (text : Text) (site : Site H σ) : Pass H σ :=
  if underPolicy && !replacer.policy.appliesTo request then .untouched text site
  else replacer.substitute request text site

/-- The pass over a text that the options ask for. -/
def passOver (replacer : PlainReplacer) (options : ReplaceOptions) (site : Site Empty Unit)
    (text : Text) : PlainPass :=
  replacer.process options.hook options.request text site

end Replacer

/-- What comes of an input when its pass has been made, and the files behind it. The
new text is written into the file if files are to be changed. -/
def ReplaceOptions.keep (options : ReplaceOptions) (current : Place) (files : FileTree)
    (path : Path) (pass : PlainPass) : Processed × FileTree :=
  if options.inPlace then
    let written := files.writeText current path pass.text
    let result := match written.error? with
      | none => .ok pass
      | some error => .error (.unwritten error pass)
    (⟨path, result⟩, written.files)
  else (⟨path, .ok pass⟩, files)

namespace Replacer

variable (replacer : PlainReplacer) (options : ReplaceOptions) (current : Place)

/-- What comes of an input, and the files behind it. -/
def processFile (site : Site Empty Unit) (files : FileTree) (path : Path) : Processed × FileTree :=
  match files.readText current path with
  | .error error => (⟨path, .error (.unread error)⟩, files)
  | .ok text => options.keep current files path (replacer.passOver options site text)

/-- Processes files one after the other. -/
def processFiles (site : Site Empty Unit) (files : FileTree) : List Path → Batch
  | [] => ⟨[], files⟩
  | path :: rest =>
    let (processed, behind) := replacer.processFile options current site files path
    let batch := processFiles site behind rest
    { batch with processed := processed :: batch.processed }

end Replacer

namespace Processed

/-- The events of the pass over an input. -/
def events (processed : Processed) : List Event :=
  match processed.result with
  | .ok pass | .error (.unwritten _ pass) => pass.events
  | .error (.unread _) => []

/-- The new text of an input. -/
def text (processed : Processed) : Text :=
  match processed.result with
  | .ok pass => pass.text
  | .error _ => []

/-- The diagnostics of the tokens of an input that stay. -/
def skipped (processed : Processed) : List Diagnostic :=
  match processed.result with
  | .ok pass => pass.skipped
  | .error _ => []

/-- Whether an input could not be read or written. -/
def failed (processed : Processed) : Bool :=
  match processed.result with
  | .ok _ => false
  | .error _ => true

/-- What is told about an input. -/
def lines (diagnostics : Option OutputFormat) (processed : Processed) : List Text :=
  match processed.result with
  | .error error => [error.line processed.source]
  | .ok pass =>
    match diagnostics with
    | none => []
    | some .text => pass.diagnostics.map (Diagnostic.textLine processed.source)
    | some .json => pass.diagnostics.map (Diagnostic.jsonLine processed.source)

end Processed

namespace Batch

/-- The number of tokens that stay. -/
def unreplaced (batch : Batch) : Nat :=
  (batch.processed.flatMap Processed.skipped).length

/-- Whether an input could not be read or written. -/
def failed (batch : Batch) : Bool :=
  batch.processed.any Processed.failed

/-- The line with which a strict run ends when tokens stay. -/
def strictLine (unreplaced : Nat) : Text :=
  "Error: ".toList ++ Text.ofNat unreplaced ++ " token(s) left unreplaced (strict mode)".toList

/-- The run that a batch makes, after some notices. -/
def toRun (options : ReplaceOptions) (notices : List Notice) (batch : Batch) : Run :=
  let refused := options.strict && !batch.failed && 0 < batch.unreplaced
  { code := if batch.failed || refused then Environment.failure else 0
    output := if options.inPlace then [] else batch.processed.flatMap Processed.text
    notices := notices ++
      (batch.processed.flatMap Processed.events).map Notice.event ++
      (batch.processed.flatMap (Processed.lines options.diagnostics)).map Notice.line ++
      if refused then [.line (strictLine batch.unreplaced)] else []
    files := batch.files
    filter := [] }

end Batch

namespace Replacer

/-- What is told about a replacer that is closed. -/
def closedLines (replacer : PlainReplacer) : List Text :=
  if replacer.isOperational then []
  else
    (replacer.problems.map fun problem => "Warning: ".toList ++ problem.shown) ++
      ["Warning: token replacement disabled by invalid configuration".toList]

end Replacer

namespace Environment

/-- Sets up a replacer without host code. -/
def setUp (configuration : Configuration) : Setup Empty Unit :=
  Replacer.ofConfiguration Host.none configuration .empty

/-- Replaces the tokens of the inputs with a configuration. -/
def replaceInputs (environment : Environment) (options : ReplaceOptions) (inputs : List Path)
    (notices : List Notice) (configuration : Configuration) : Run :=
  let setup := setUp (options.adjust configuration)
  let told := notices ++ setup.events.map Notice.event ++
    setup.replacer.closedLines.map Notice.line
  let site : Site Empty Unit := ⟨setup.registry, ()⟩
  if inputs.isEmpty then
    environment.withText none told fun text =>
      let pass := setup.replacer.passOver options site text
      Batch.toRun options told ⟨[⟨"<stdin>".toList, .ok pass⟩], environment.files⟩
  else
    (setup.replacer.processFiles options environment.current site environment.files inputs).toRun
      options told

/-- Runs the command that replaces tokens. -/
def replace (environment : Environment) (options : ReplaceOptions) : Run :=
  match options.inputs environment with
  | .error reason => environment.fail refusal [] reason
  | .ok inputs =>
    environment.withConfiguration options.configuration
      (environment.replaceInputs options inputs)

end Environment
end PageTokens
