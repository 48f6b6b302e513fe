import PageTokens.CommandLine.Footprint
import PageTokens.CommandLine.Run

/-!
# The program

The program looks at the files that its command line is about, runs, writes the
files that have changed, and tells what there is to tell. A link to a file
counts as a file, and nothing is searched behind a link to a directory.
-/

namespace PageTokens.Program

/-- The entry at a place. -/
def entryAt (place : Place) : IO.FS.DirEntry :=
  ⟨"/", String.ofList (Text.join "/".toList place)⟩

/-- The place of a directory. -/
def placeOf (path : Path) : Place :=
  path.pieces.filter fun piece => !piece.isEmpty

/-- The refusal of the system that an error stands for, if it is one. -/
def refusal? : IO.Error → Option FileError
  | .permissionDenied _ _ _ => some (.system "Permission denied (os error 13)".toList)
  | _ => none

/-- One more thing that is refused. -/
def refusing (refused : Place → Option FileError) (place : Place) (error : IO.Error) :
    Place → Option FileError :=
  fun other => (if other = place then refusal? error else none).or (refused other)

/-- Adds what is at a place to a tree, without its content. -/
def observe (tree : FileTree) (place : Place) : IO FileTree := do
  try
    let metadata ← (entryAt place).path.metadata
    return tree.plant place (if metadata.type == .dir then .directory else .file (.text []))
  catch error =>
    let entering := refusing tree.refusals.entering place.dropLast error
    return { tree with refusals := { tree.refusals with entering := entering } }

/-- Adds what a path leads through to a tree. -/
def observePath (current : Place) (tree : FileTree) (path : Path) : IO FileTree := do
  let start : Place := if path.isAbsolute then [] else current
  let (_, observed) ← path.pieces.foldlM
    (fun (place, tree) piece => do
      match Component.ofPiece? piece with
      | some .parent => return (place.dropLast, tree)
      | some (.name name) => return (place ++ [name], ← observe tree (place ++ [name]))
      | some .root | some .current | none => return (place, tree))
    (start, tree)
  return observed

/-- Adds something that a directory lists to a tree. What cannot be looked at is there all the
same. -/
def observeListed (tree : FileTree) (place : Place) : IO FileTree := do
  let observed ← observe tree place
  let hidden := (observed.refusals.entering place.dropLast).isSome
  return if hidden then observed.plant place (.file (.text [])) else observed

/-- Whether a listed entry is a directory, and no link to one. -/
def isInnerDirectory (entry : IO.FS.DirEntry) : IO Bool := do
  try
    return (← entry.path.symlinkMetadata).type == .dir
  catch _ =>
    return false

/-- Adds everything below a place to a tree, at most `depth` directories deep. -/
def observeBelow (depth : Nat) (tree : FileTree) (place : Place) : IO FileTree := do
  match depth with
  | 0 => return tree
  | depth + 1 =>
    let path := (entryAt place).path
    if !(← path.isDir) then
      return tree
    let listed : Except IO.Error (Array IO.FS.DirEntry) ←
      try Except.ok <$> path.readDir catch error => pure (.error error)
    match listed with
    | .ok entries =>
      entries.foldlM
        (fun tree entry => do
          let inner := place ++ [entry.fileName.toList]
          let observed ← observeListed tree inner
          if ← isInnerDirectory entry then
            observeBelow depth observed inner
          else
            return observed)
        tree
    | .error error =>
      let listing := refusing tree.refusals.listing place error
      return { tree with refusals := { tree.refusals with listing := listing } }

/-- Adds everything below a path to a tree. The length of paths bounds the depth. -/
def search (current : Place) (tree : FileTree) (path : Path) : IO FileTree :=
  match if path.isEmpty then .ok current else tree.resolve current path with
  | .ok place => observeBelow FileTree.maximumPath tree place
  | .error _ => return tree

/-- Adds the content of a file to a tree. -/
def readContent (current : Place) (tree : FileTree) (path : Path) : IO FileTree :=
  match tree.resolve current path with
  | .error _ => return tree
  | .ok place =>
    match tree.node? place with
    | some (.file _) => do
      try
        let bytes ← IO.FS.readBinFile (entryAt place).path
        return tree.put place (.file (.ofBytes bytes))
      catch error =>
        let reading := refusing tree.refusals.reading place error
        return { tree with refusals := { tree.refusals with reading := reading } }
    | some .directory | none => return tree

/-- Tries to open a file for writing and keeps the refusal, if there is one. The file stays as it
is. -/
def tryWriting (current : Place) (tree : FileTree) (path : Path) : IO FileTree :=
  match tree.resolve current path with
  | .error _ => return tree
  | .ok place => do
    try
      let _ ← IO.FS.Handle.mk (entryAt place).path .append
      return tree
    catch error =>
      let failure := (refusal? error).map fun refused => WriteFailure.mk refused id
      let writing (other : Place) (text : Text) :=
        (if other = place then failure else none).or (tree.refusals.writing other text)
      return { tree with refusals := { tree.refusals with writing := writing } }

/-- What a command sees. -/
def survey (environment : Environment) (command : Command) : IO Environment := do
  let current := environment.current
  let named ← (environment.candidates ++ command.paths).foldlM (observePath current)
    environment.files
  let found ← command.searched.foldlM (search current) named
  let seen := { environment with files := found }
  let read ← (seen.contents command).foldlM (readContent current) found
  let files ← (seen.changed command).foldlM (tryWriting current) read
  let bytes ← if seen.readsInput command then (← IO.getStdin).readBinToEnd else pure .empty
  return { environment with
    files := files
    input := .ofBytes bytes }

/-- Tells a notice, if the log admits it. -/
def tell (filter : LogFilter) : Notice → IO Unit
  | .line text => IO.eprintln (String.ofList text)
  | .event event => do
    if filter.admits event then
      IO.eprintln (String.ofList event.logLine)

/-- Writes the files in which two trees differ. -/
def writeChanges (before after : FileTree) : IO Unit :=
  after.nodes.entries.forM fun (place, node) => do
    match node with
    | .directory => return
    | .file content =>
      if before.node? place ≠ some node then
        IO.FS.writeBinFile (entryAt place).path content.toBytes

/-- The place of the working directory, and a tree with it. A working directory that is no longer
there has a place that is in no tree: no name is empty. -/
def workingDirectory : IO (Place × FileTree) := do
  try
    let current := placeOf (← IO.currentDir).toString.toList
    return (current, FileTree.empty.plant current .directory)
  catch _ =>
    return ([[]], .empty)

/-- An environment in which nothing has been looked at. -/
def blankEnvironment : IO Environment := do
  let (current, files) ← workingDirectory
  return {
    files := files
    current := current
    configurationHome := .ofPath? ((← IO.getEnv "XDG_CONFIG_HOME").map String.toList)
    home := .ofPath? ((← IO.getEnv "HOME").map String.toList)
    input := .text []
    logSetting := (← IO.getEnv "RUST_LOG").map String.toList }

/-- Runs the program on the words of its command line and gives the exit code. -/
def run (words : List Text) : IO Nat := do
  let blank ← blankEnvironment
  let environment ← match CommandLine.read words with
    | .ok line => survey blank line.command
    | .error _ => pure blank
  let run := environment.run words
  writeChanges environment.files run.files
  run.notices.forM (tell run.filter)
  IO.print (String.ofList run.output)
  return run.code

end PageTokens.Program

/-- Runs the program. -/
def main (arguments : List String) : IO UInt32 := do
  let code ← PageTokens.Program.run (arguments.map String.toList)
  return code.toUInt32
