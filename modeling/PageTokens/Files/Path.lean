import PageTokens.Text.Cut

/-!
# Paths

A path is the text that names a file, with slashes between its pieces. Two
spellings of a path can name the same file; `components` forgets empty pieces
and single dots, and paths are ordered by their components.
-/

namespace PageTokens

/-- The text that names a file or directory. -/
abbrev Path := Text

/-- A part of a path that counts. A single dot counts only at the beginning. -/
inductive Component
  | root
  | current
  | parent
  | name (text : Text)
deriving DecidableEq

namespace Component

/-- The place of a component in the order of paths: by kind, then by name. -/
def orderKey : Component → List Nat
  | root => [0]
  | current => [1]
  | parent => [2]
  | name text => 3 :: text.map Char.toNat

/-- The component a piece of a path stands for, if it counts. -/
def ofPiece? (piece : Text) : Option Component :=
  if piece = [] ∨ piece = ".".toList then none
  else if piece = "..".toList then some parent
  else some (name piece)

end Component

namespace Path

/-- Whether a path begins at the root. -/
def isAbsolute (path : Path) : Bool :=
  path.head? = some '/'

/-- The pieces of a path between its slashes. -/
def pieces (path : Path) : List Text :=
  Text.split "/".toList path

/-- The components of a path. -/
def components (path : Path) : List Component :=
  let first := match path.pieces with
    | [] => []
    | piece :: _ =>
      if path.isAbsolute then [Component.root]
      else if piece = ".".toList then [Component.current]
      else []
  first ++ path.pieces.filterMap Component.ofPiece?

/-- The place of a path in the order of paths. -/
def orderKey (path : Path) : List (List Nat) :=
  path.components.map Component.orderKey

/-- Whether a path does not come after another one. -/
def isAtMost (left right : Path) : Bool :=
  !decide (right.orderKey < left.orderKey)

/-- A path that begins at another path, unless it begins at the root. -/
def join (base child : Path) : Path :=
  if child.isAbsolute || base.isEmpty then child
  else if base.getLast? = some '/' then base ++ child
  else base ++ '/' :: child

/-- Pieces without those at the end that do not count. -/
def dropIdle (pieces : List Text) : List Text :=
  (pieces.reverse.dropWhile fun piece => (Component.ofPiece? piece).isNone).reverse

/-- The pieces of a path that begins with no slash, up to the last one that counts. -/
def solidPieces : List Text → List Text
  | [] => []
  | first :: rest =>
    match dropIdle rest with
    | [] => if first.isEmpty then [] else [first]
    | solid => first :: solid

/-- The path without its last component. The root and the empty path have none. -/
def parent? (path : Path) : Option Path :=
  if path.isAbsolute then
    match dropIdle path.pieces.tail with
    | [] => none
    | solid => some ('/' :: Text.join "/".toList (dropIdle solid.dropLast))
  else
    match solidPieces path.pieces with
    | [] => none
    | solid => some (Text.join "/".toList (solidPieces solid.dropLast))

/-- A path and the paths above it, nearest first. `limit` bounds their number. -/
def ancestorsUpTo (limit : Nat) (path : Path) : List Path :=
  match limit with
  | 0 => [path]
  | limit + 1 =>
    match path.parent? with
    | none => [path]
    | some parent => path :: ancestorsUpTo limit parent

/-- A path and the paths above it, nearest first. Each has a component less than the one before. -/
def ancestors (path : Path) : List Path :=
  ancestorsUpTo path.components.length path

end Path
end PageTokens
