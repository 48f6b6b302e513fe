import PageTokens.CommandLine.Replace

/-!
# What a command looks at

A run sees the files through a tree. This module says what the tree has to hold
for a command: the paths whose names count, the directories that are searched,
and the paths whose content is read.
-/

namespace PageTokens

namespace Command

/-- The configuration file that a command names. -/
def configuration? : Command → Option Path
  | replace options => options.configuration
  | tokens configuration _ | check configuration | parse _ configuration => configuration

/-- The paths that a command names. -/
def paths (command : Command) : List Path :=
  command.configuration?.toList ++
    match command with
    | replace options => options.files ++ options.directory.toList
    | parse input _ => input.toList
    | tokens _ _ | check _ => []

/-- The directories below which a command searches. -/
def searched : Command → List Path
  | replace options => (options.directory.map Glob.fixedPart).toList
  | tokens _ _ | check _ | parse _ _ => []

end Command

namespace Surroundings

/-- The paths at which a configuration file is looked for. -/
def candidates (surroundings : Surroundings) : List Path :=
  surroundings.currentPath?.toList.flatMap Configuration.pathsFrom ++
    surroundings.userWidePath?.toList

end Surroundings

namespace Environment

/-- The inputs of a command. A refused command has none. -/
def inputs (environment : Environment) : Command → List Path
  | .replace options => (options.inputs environment).toOption.getD []
  | .parse input _ => input.toList
  | .tokens _ _ | .check _ => []

/-- The paths whose content a command reads. -/
def contents (environment : Environment) (command : Command) : List Path :=
  (command.configuration?.or environment.discover?).toList ++ environment.inputs command

/-- The paths whose content a command may change. -/
def changed (environment : Environment) (command : Command) : List Path :=
  match command with
  | .replace options => if options.inPlace then environment.inputs command else []
  | .tokens _ _ | .check _ | .parse _ _ => []

/-- Whether a command may read the standard input. -/
def readsInput (environment : Environment) (command : Command) : Bool :=
  match command with
  | .replace _ | .parse _ _ => (environment.inputs command).isEmpty
  | .tokens _ _ | .check _ => false

end Environment
end PageTokens
