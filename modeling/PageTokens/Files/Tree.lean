import PageTokens.Dictionary
import PageTokens.Files.Path

/-!
# File trees

A file tree holds directories and files by their places. A place is the list of
names on the way from the root. Resolving a path walks from place to place, and
each place on the way has to be a directory that may be entered. There are no
links, so each file has one place. The system can refuse to let a directory be
entered or listed, and a file be read or written.
-/

namespace PageTokens

/-- The names on the way from the root to a file or directory. -/
abbrev Place := List Text

namespace Place

/-- The places on the way to a place, without the root and the place itself. -/
def above (place : Place) : List Place :=
  ((List.range place.length).drop 1).map place.take

/-- The places on the way down from a place to another one below it, without the
other one itself. -/
def downTo (place other : Place) : List Place :=
  ((List.range other.length).drop place.length).map other.take

/-- The path of a place. -/
def toPath (place : Place) : Path :=
  '/' :: Text.join "/".toList place

end Place

/-- What a file holds: a text, or bytes that are no text. -/
inductive Content
  | text (characters : Text)
  | bytes (raw : List UInt8)
deriving DecidableEq

namespace Content

/-- Bytes as content: a text when they are UTF-8. -/
def ofBytes (bytes : ByteArray) : Content :=
  match String.fromUTF8? bytes with
  | some string => .text string.toList
  | none => .bytes bytes.toList

/-- The bytes of a content. -/
def toBytes : Content → ByteArray
  | .text characters => (String.ofList characters).toUTF8
  | .bytes raw => ⟨raw.toArray⟩

end Content

/-- What is at a place. -/
inductive Node
  | directory
  | file (content : Content)
deriving DecidableEq

/-- The reason for which a file cannot be read or written. Refusals of the system
come in its own words. -/
inductive FileError
  | notFound
  | notDirectory
  | isDirectory
  | nameTooLong
  | notAName
  | notText
  | system (words : Text)
deriving DecidableEq, Repr

namespace FileError

/-- The text of an error. -/
def message : FileError → Text
  | notFound => "No such file or directory (os error 2)".toList
  | notDirectory => "Not a directory (os error 20)".toList
  | isDirectory => "Is a directory (os error 21)".toList
  | nameTooLong => "File name too long (os error 36)".toList
  | notAName => "file name contained an unexpected NUL byte".toList
  | notText => "stream did not contain valid UTF-8".toList
  | system words => words

end FileError

namespace Content

/-- The text of a content. -/
def readText : Content → Except FileError Text
  | .text characters => .ok characters
  | .bytes _ => .error .notText

end Content

/-- The failure of an attempt to write a text into a file. The file need not be
what it was: a part of the text may be in it, or nothing. -/
structure WriteFailure where
  error : FileError
  left : Content → Content

/-- What the system refuses: to look up names in a directory, to list what is in
it, to read a file, and to write a text into one. -/
structure Refusals where
  entering : Place → Option FileError
  listing : Place → Option FileError
  reading : Place → Option FileError
  writing : Place → Text → Option WriteFailure

/-- A system that refuses nothing. -/
def Refusals.none : Refusals :=
  ⟨fun _ => .none, fun _ => .none, fun _ => .none, fun _ _ => .none⟩

/-- The text of what is at a place, if it is a file. -/
def Node.readText : Node → Except FileError Text
  | directory => .error .isDirectory
  | file content => content.readText

/-- Directories and files by their places, and what the system refuses to do with
them. The root is always a directory. -/
structure FileTree where
  nodes : Dictionary Place Node
  refusals : Refusals := .none

/-- What an attempt to write a file leaves: the files, and the reason for which it
failed. -/
structure Written where
  files : FileTree
  error? : Option FileError

namespace FileTree

/-- The tree of the root alone. -/
def empty : FileTree := { nodes := .empty }

/-- What is at a place. -/
def node? (tree : FileTree) (place : Place) : Option Node :=
  if place.isEmpty then some .directory else tree.nodes.get? place

/-- The tree with something else at a place. -/
def put (tree : FileTree) (place : Place) (node : Node) : FileTree :=
  { tree with nodes := tree.nodes.insert place node }

/-- The tree with something at a place and a directory at each missing place on the way. -/
def plant (tree : FileTree) (place : Place) (node : Node) : FileTree :=
  (place.above.foldl (fun tree other =>
    if (tree.node? other).isSome then tree else tree.put other .directory) tree).put place node

/-- The greatest number of bytes in the name of a file. -/
def maximumName : Nat := 255

/-- The greatest number of bytes in a path. -/
def maximumPath : Nat := 4095

/-- The place that a piece of a path leads to from another place. Only an empty
piece does not look anything up. -/
def step (tree : FileTree) (place : Place) (piece : Text) : Except FileError Place :=
  match tree.node? place with
  | none => .error .notFound
  | some (.file _) => .error .notDirectory
  | some .directory =>
    if piece = [] then .ok place
    else match tree.refusals.entering place with
      | some error => .error error
      | none =>
        if piece = ".".toList then .ok place
        else if piece = "..".toList then .ok place.dropLast
        else if maximumName < piece.byteLength then .error .nameTooLong
        else if (tree.node? (place ++ [piece])).isSome then .ok (place ++ [piece])
        else .error .notFound

/-- The place a path names, seen from the directory at `current`. No name holds the
character zero. -/
def resolve (tree : FileTree) (current : Place) (path : Path) : Except FileError Place :=
  if path.any (· = '\x00') then .error .notAName
  else if path.isEmpty then .error .notFound
  else if maximumPath < path.byteLength then .error .nameTooLong
  else path.pieces.foldlM tree.step (if path.isAbsolute then [] else current)

/-- What a path names. -/
def nodeAt? (tree : FileTree) (current : Place) (path : Path) : Option Node :=
  match tree.resolve current path with
  | .ok place => tree.node? place
  | .error _ => none

/-- Whether a path names something. -/
def isPresent (tree : FileTree) (current : Place) (path : Path) : Bool :=
  (tree.nodeAt? current path).isSome

/-- Whether a path names a directory. -/
def isDirectory (tree : FileTree) (current : Place) (path : Path) : Bool :=
  tree.nodeAt? current path = some .directory

/-- The text of the file at a place. -/
def readPlace (tree : FileTree) (place : Place) : Except FileError Text :=
  match tree.node? place with
  | none => .error .notFound
  | some node =>
    match tree.refusals.reading place with
    | some error => .error error
    | none => node.readText

/-- The text of the file that a path names. -/
def readText (tree : FileTree) (current : Place) (path : Path) : Except FileError Text := do
  tree.readPlace (← tree.resolve current path)

/-- Writes a text into the file at a place. -/
def writePlace (tree : FileTree) (place : Place) (text : Text) : Written :=
  match tree.node? place with
  | none => ⟨tree, some .notFound⟩
  | some .directory => ⟨tree, some .isDirectory⟩
  | some (.file content) =>
    match tree.refusals.writing place text with
    | none => ⟨tree.put place (.file (.text text)), none⟩
    | some failure => ⟨tree.put place (.file (failure.left content)), some failure.error⟩

/-- Writes a text into the file that a path names. -/
def writeText (tree : FileTree) (current : Place) (path : Path) (text : Text) : Written :=
  match tree.resolve current path with
  | .ok place => tree.writePlace place text
  | .error error => ⟨tree, some error⟩

/-- The path without detours to what a path names, or the path itself if it names nothing. -/
def canonical (tree : FileTree) (current : Place) (path : Path) : Path :=
  match tree.resolve current path with
  | .ok place => place.toPath
  | .error _ => path

/-- The places below a place with what is there, each directory before its
content, names in ascending order. -/
def below (tree : FileTree) (place : Place) : List (Place × Node) :=
  tree.nodes.entries.filter fun (other, _) => place.isPrefixOf other && place ≠ other

/-- Whether someone who lists a directory and the directories below it comes
upon a place. The directories on the way have to be listed, and to list another
directory one has to enter the directories in front of it. -/
def shows (tree : FileTree) (place other : Place) : Bool :=
  let way := place.downTo other
  way.all (fun directory => (tree.refusals.listing directory).isNone) &&
    way.dropLast.all fun directory => (tree.refusals.entering directory).isNone

end FileTree
end PageTokens
