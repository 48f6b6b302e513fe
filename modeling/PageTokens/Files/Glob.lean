import PageTokens.Files.Tree

/-!
# Patterns of paths

In a pattern a question mark stands for a character, a star for any number of
them, and brackets for a set of characters. Two stars as a whole piece of the
pattern stand for any number of directories. `Glob.search` gives the paths that
agree with a pattern, in the order of a walk from the root of the pattern.
-/

namespace PageTokens.Glob

/-- A range of characters. -/
structure CharRange where
  first : Char
  last : Char
deriving DecidableEq

/-- A part of a pattern. -/
inductive Part
  | char (expected : Char)
  | anyChar
  | anyText
  | anyDirectories
  | within (ranges : List CharRange)
  | except (ranges : List CharRange)
deriving DecidableEq

/-- The characters between brackets as ranges. -/
def ranges : Text → List CharRange
  | [] => []
  | first :: '-' :: last :: rest => ⟨first, last⟩ :: ranges rest
  | char :: rest => ⟨char, char⟩ :: ranges rest

/-- A set in brackets and the text behind it. At least one character stands
between the brackets; a closing bracket may be the first of them. -/
def cutSet? (text : Text) : Option (Part × Text) :=
  match text with
  | '!' :: first :: rest => do
    let (more, behind) ← Text.cut? "]".toList rest
    some (.except (ranges (first :: more)), behind)
  | ['!'] => none
  | first :: rest => do
    let (more, behind) ← Text.cut? "]".toList rest
    some (.within (ranges (first :: more)), behind)
  | [] => none

/-- What follows a set of characters is shorter than the whole pattern. -/
theorem length_lt_of_cutSet? {text rest : Text} {part : Part}
    (found : cutSet? text = some (part, rest)) : rest.length < text.length := by
  have solid : "]".toList ≠ [] := by decide
  unfold cutSet? at found
  split at found
  · next first inner =>
    obtain ⟨⟨more, behind⟩, cut, equal⟩ := Option.bind_eq_some_iff.mp found
    cases equal
    have := Text.length_lt_of_cut? solid cut
    simp only [List.length_cons]
    omega
  · contradiction
  · next first inner _ _ =>
    obtain ⟨⟨more, behind⟩, cut, equal⟩ := Option.bind_eq_some_iff.mp found
    cases equal
    have := Text.length_lt_of_cut? solid cut
    simp only [List.length_cons]
    omega
  · contradiction

/-- The parts of a pattern. `opened` says whether a whole piece may begin here. -/
def parts? (opened : Bool) (text : Text) : Option (List Part) :=
  match text with
  | [] => some []
  | '*' :: '*' :: '*' :: _ => none
  | ['*', '*'] => if opened then some [.anyDirectories] else none
  | '*' :: '*' :: '/' :: rest =>
    if opened then (parts? true rest).map (.anyDirectories :: ·) else none
  | '*' :: '*' :: _ => none
  | '*' :: rest => (parts? false rest).map (.anyText :: ·)
  | '?' :: rest => (parts? false rest).map (.anyChar :: ·)
  | '[' :: rest =>
    match found : cutSet? rest with
    | some (part, behind) =>
      have : behind.length < rest.length := length_lt_of_cutSet? found
      (parts? false behind).map (part :: ·)
    | none => none
  | char :: rest => (parts? (char = '/') rest).map (.char char :: ·)
termination_by text.length

/-- Whether a character lies in one of some ranges. -/
def inRanges (ranges : List CharRange) (char : Char) : Bool :=
  ranges.any fun range => range.first ≤ char && char ≤ range.last

namespace Part

/-- Whether a character agrees with a part that stands for one character. -/
def acceptsChar (char : Char) : Part → Bool
  | .char expected => char = expected
  | anyChar => true
  | within ranges => inRanges ranges char
  | except ranges => !inRanges ranges char
  | anyText | anyDirectories => false

/-- The character a part stands for, if there is only one. -/
def literal? : Part → Option Char
  | char expected => some expected
  | _ => none

end Part

/-- Whether some rest of a text is accepted. -/
def anyRest (accepts : Text → Bool) : Text → Bool
  | [] => accepts []
  | char :: rest => accepts (char :: rest) || anyRest accepts rest

/-- Whether a name agrees with the parts of a pattern. -/
def accepts : List Part → Text → Bool
  | [], name => name.isEmpty
  | .anyText :: parts, name | .anyDirectories :: parts, name => anyRest (accepts parts) name
  | _ :: _, [] => false
  | part :: parts, char :: rest => part.acceptsChar char && accepts parts rest

/-- A piece of a pattern: any number of directories, a name, or a pattern of names. -/
inductive Piece
  | directories
  | name (expected : Text)
  | pattern (parts : List Part)
deriving DecidableEq

namespace Piece

/-- The piece with given parts. -/
def ofParts (parts : List Part) : Piece :=
  if parts.contains .anyDirectories then .directories
  else match parts.mapM Part.literal? with
    | some expected => .name expected
    | none => .pattern parts

/-- Whether a name agrees with a piece. -/
def acceptsName (name : Text) : Piece → Bool
  | directories => true
  | .name expected => name = expected
  | pattern parts => accepts parts name

/-- The special names of a directory and of the one above it that agree with a
piece. A piece has to begin with a dot to agree with them; the one above comes
first. -/
def specialNames : Piece → List Text
  | pattern (.char '.' :: parts) =>
    ["..".toList, ".".toList].filter (accepts (.char '.' :: parts))
  | _ => []

end Piece

/-- A path in the course of a search. -/
structure Found where
  path : Path
  place : Place
  isDirectory : Bool
deriving DecidableEq

namespace Found

/-- What a path names, if it names something. -/
def of? (tree : FileTree) (current : Place) (path : Path) : Option Found :=
  match tree.resolve current path with
  | .ok place => some ⟨path, place, tree.node? place = some .directory⟩
  | .error _ => none

/-- The path of something in a directory. In the directory where the search
begins it has no path in front. -/
def child (base : Found) (name : Path) : Path :=
  if base.path = ".".toList then name else base.path.join name

/-- Everything below a directory that is shown. -/
def descendants (tree : FileTree) (base : Found) : List Found :=
  if base.isDirectory then
    ((tree.below base.place).filter fun (place, _) => tree.shows base.place place).map
      fun (place, node) =>
        ⟨base.child (Text.join "/".toList (place.drop base.place.length)), place,
          node = .directory⟩
  else []

/-- Everything in a directory. -/
def children (tree : FileTree) (base : Found) : List Found :=
  (base.descendants tree).filter fun found => found.place.length = base.place.length + 1

/-- The name of what was found. -/
def name (found : Found) : Text :=
  found.place.getLast?.getD []

end Found

/-- What a search looks at: the tree, the directory where relative paths begin,
and whether only directories are wanted. -/
structure Search where
  tree : FileTree
  current : Place
  directoriesOnly : Bool

namespace Search

/-- What was found, if it is wanted. -/
def wanted (search : Search) (found : Found) : List Found :=
  if !search.directoriesOnly || found.isDirectory then [found] else []

/-- What agrees with the pieces of a pattern from a directory on. -/
def run (search : Search) (pieces : List Piece) (base : Found) : List Found :=
  match pieces with
  | [] => search.wanted base
  | .directories :: rest =>
    match later : rest.dropWhile (· = .directories) with
    | [] => (base.descendants search.tree).filter Found.isDirectory
    | next :: after =>
      have : after.length < rest.length := by
        have later_le :=
          (List.dropWhile_sublist (· = .directories) : (rest.dropWhile _).Sublist rest).length_le
        simp only [later, List.length_cons] at later_le
        omega
      (base.descendants search.tree).flatMap fun found =>
        if next.acceptsName found.name then search.run after found else []
  | .name expected :: rest =>
    if base.isDirectory then
      (Found.of? search.tree search.current (base.child expected)).toList.flatMap (search.run rest)
    else []
  | .pattern parts :: rest =>
    if base.isDirectory then
      let specials := (Piece.pattern parts).specialNames.filterMap fun name =>
        Found.of? search.tree search.current (base.path.join name)
      (specials ++ (base.children search.tree).filter fun found => accepts parts found.name).flatMap
        (search.run rest)
    else []
termination_by pieces.length

end Search

/-- The text without slashes at its end, as pieces between slashes. -/
def cutPieces (text : Text) : List Text :=
  let pieces := Text.split "/".toList text
  if pieces.getLast? = some [] then pieces.dropLast else pieces

/-- The paths that agree with a pattern; none if the pattern is not sound. -/
def search (tree : FileTree) (current : Place) (pattern : Text) : List Path :=
  match parts? true pattern with
  | none => []
  | some _ =>
    let (start, relative) : Path × Text :=
      match pattern with
      | '/' :: rest => ("/".toList, rest)
      | _ => (".".toList, pattern)
    match (cutPieces relative).mapM (parts? true) with
    | none => []
    | some pieces =>
      let search : Search := ⟨tree, current, pattern.getLast? = some '/'⟩
      (Found.of? tree current start).toList.flatMap fun base =>
        (search.run (pieces.map Piece.ofParts) base).map Found.path

/-- Whether a character has a meaning of its own in a pattern. -/
def isSpecial (char : Char) : Bool :=
  char = '?' || char = '*' || char = '['

/-- The directory below which everything lies that agrees with a pattern. -/
def fixedPart (pattern : Text) : Path :=
  let plain := pattern.takeWhile fun char => !isSpecial char
  if plain.length = pattern.length then pattern
  else (plain.reverse.dropWhile (· ≠ '/')).reverse

/-- The paths below a directory with a given ending of their names, in the order of paths. -/
def filesWithEnding (tree : FileTree) (current : Place) (directory : Path) (ending : Text) :
    List Path :=
  let pattern := directory ++ "/**/*.".toList ++ ending.dropWhile (· = '.')
  (search tree current pattern).mergeSort Path.isAtMost

end PageTokens.Glob
