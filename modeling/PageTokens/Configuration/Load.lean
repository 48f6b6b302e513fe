import PageTokens.Configuration.Shape
import PageTokens.Files.Tree
import PageTokens.Toml.Document

/-!
# Loading a configuration

A configuration file is the nearest `ctr.toml` in the working directory or above
it, else the one for all sites of the user. A file that is found and cannot be
used is an error; nothing else is tried in its stead. Warnings do not keep a
configuration from being used, they are reported as events.
-/

namespace PageTokens

/-- The reason for which a configuration cannot be loaded. -/
inductive LoadError
  | unreadable (error : FileError)
  | malformed
  | refused (problems : List Problem)

namespace LoadError

/-- The text of an error. -/
def message : LoadError → Text
  | unreadable error => "Failed to read config: ".toList ++ error.message
  | malformed => "Failed to parse ctr.toml:".toList
  | refused problems =>
    "Config validation failed:\n".toList ++
      Text.join "\n".toList (problems.map fun problem => "  - ".toList ++ problem.shown)

end LoadError

/-- What comes of loading a configuration. -/
structure Loading where
  result : Except LoadError Configuration
  events : List Event

namespace Configuration

/-- The configuration in a document, if the document has the shape of one. -/
def ofDocument? (document : Text) : Option Configuration := do
  let data ← Toml.read? document
  (reader .passedOver data).toOption

/-- A configuration that may be used, or its errors. -/
def accept (configuration : Configuration) : Except LoadError Configuration :=
  match configuration.problemsOf .error with
  | [] => .ok configuration
  | problems => .error (.refused problems)

/-- The events that report the warnings of a configuration. -/
def warningEvents (configuration : Configuration) : List Event :=
  (configuration.problemsOf .warn).map fun problem => .configurationProblem problem.shown

/-- Loads a configuration from a document. -/
def parse (document : Text) : Loading :=
  match ofDocument? document with
  | none => ⟨.error .malformed, []⟩
  | some configuration => ⟨configuration.accept, configuration.warningEvents⟩

/-- The name of configuration files. -/
def fileName : Text := "ctr.toml".toList

/-- The directory for the configuration of all sites of a user. -/
def directoryName : Text := "cacheable-tokens".toList

/-- The paths of configuration files in a directory and above it, nearest first. -/
def pathsFrom (start : Path) : List Path :=
  start.ancestors.map fun directory => directory.join fileName

end Configuration

/-- What a directory of the environment is set to. -/
inductive Setting
  | unset
  | path (directory : Path)
  | bytes (raw : List UInt8)
deriving DecidableEq

namespace Setting

/-- A setting that is a path, if there is one. -/
def ofPath? : Option Path → Setting
  | none => unset
  | some directory => path directory

instance : Coe (Option Path) Setting := ⟨ofPath?⟩

/-- The path of a setting. Bytes that are no text give none. -/
def path? : Setting → Option Path
  | path directory => some directory
  | unset | bytes _ => none

end Setting

/-- Where a configuration is looked for: the files, the working directory, and
the settings of the two directories of the user. -/
structure Surroundings where
  files : FileTree
  current : Place
  configurationHome : Setting
  home : Setting

namespace Surroundings

/-- Whether a path names something. -/
def isPresent (surroundings : Surroundings) (path : Path) : Bool :=
  surroundings.files.isPresent surroundings.current path

/-- The configuration file in a directory or in the nearest one above it. -/
def nearest? (surroundings : Surroundings) (start : Path) : Option Path :=
  (Configuration.pathsFrom start).find? surroundings.isPresent

/-- The place of the configuration file for all sites of the user. The
directory for configurations wins over the home directory, if it is set to a
path. -/
def userWidePath? (surroundings : Surroundings) : Option Path :=
  let base := surroundings.configurationHome.path?.or
    (surroundings.home.path?.map fun home => home.join ".config".toList)
  base.map fun base =>
    (base.join Configuration.directoryName).join Configuration.fileName

/-- The configuration file for all sites of the user. -/
def userWide? (surroundings : Surroundings) : Option Path :=
  surroundings.userWidePath?.filter surroundings.isPresent

/-- The path of the working directory. It has none when it is no longer there. -/
def currentPath? (surroundings : Surroundings) : Option Path :=
  if surroundings.files.node? surroundings.current = some .directory then
    some surroundings.current.toPath
  else none

/-- The configuration file that is used. -/
def discover? (surroundings : Surroundings) : Option Path :=
  (surroundings.currentPath?.bind surroundings.nearest?).or surroundings.userWide?

/-- Loads the configuration in a file. -/
def loadFile (surroundings : Surroundings) (path : Path) : Loading :=
  let loading := match surroundings.files.readText surroundings.current path with
    | .ok document => Configuration.parse document
    | .error error => ⟨.error (.unreadable error), []⟩
  { loading with events := .configurationLoading path :: loading.events }

/-- Loads the configuration in a given file, else the one that is found, else
the standard one. -/
def load (surroundings : Surroundings) (path : Option Path) : Loading :=
  match path.or surroundings.discover? with
  | some path => surroundings.loadFile path
  | none => ⟨.ok .standard, [.configurationAbsent]⟩

end Surroundings
end PageTokens
