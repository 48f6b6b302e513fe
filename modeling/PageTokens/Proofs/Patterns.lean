import PageTokens.Proofs.Walk

/-!
# Patterns for the files below a directory

The search for files with an ending writes the path of a directory and the ending
into a pattern. As long as no character of them has a meaning of its own, the
pattern says what it is meant to say: its pieces are the names in the path, then
any number of directories, then a name with the ending (`mapM_cutPieces`). So the
search goes along the names and looks at everything below
(`search_endingPattern`).
-/

namespace PageTokens.Glob

/-- No character of a text has a meaning of its own in a pattern. -/
def Plain (text : Text) : Prop :=
  ∀ char ∈ text, isSpecial char = false

instance (text : Text) : Decidable (Plain text) :=
  List.decidableBAll (fun char => isSpecial char = false) text

section Parts

variable {text rest : Text} {char : Char} {opened : Bool}

/-- The rest of a plain text is plain, and so are the pieces of a plain path. -/
theorem Plain.tail (plain : Plain (char :: text)) : Plain text :=
  fun other inText => plain other (List.mem_cons_of_mem _ inText)

theorem Plain.piece {path : Path} (plain : Plain path) {piece : Text}
    (member : piece ∈ path.pieces) : Plain piece := fun char inPiece =>
  plain char (Path.subset_of_mem_pieces member inPiece)

/-- A character without a meaning of its own stands for itself. -/
theorem parts?_cons_of_not_special (plain : isSpecial char = false) :
    parts? opened (char :: rest) = (parts? (char = '/') rest).map (.char char :: ·) := by
  simp only [isSpecial, Bool.or_eq_false_iff, decide_eq_false_iff_not] at plain
  rw [parts?]
  all_goals simp_all

/-- A plain text is a pattern of its characters. -/
theorem parts?_of_plain (plain : Plain text) : parts? opened text = some (text.map .char) := by
  induction text generalizing opened with
  | nil => rw [parts?]; rfl
  | cons char text inductionHypothesis =>
    rw [parts?_cons_of_not_special (plain char List.mem_cons_self),
      inductionHypothesis plain.tail]
    rfl

/-- Behind a plain text and a slash a pattern goes on where a whole piece may begin. -/
theorem isSome_parts?_append (plain : Plain text) :
    (parts? opened (text ++ '/' :: rest)).isSome = (parts? true rest).isSome := by
  induction text generalizing opened with
  | nil =>
    rw [List.nil_append, parts?_cons_of_not_special (by decide), Option.isSome_map]
    rfl
  | cons char text inductionHypothesis =>
    rw [List.cons_append, parts?_cons_of_not_special (plain char List.mem_cons_self),
      Option.isSome_map, inductionHypothesis plain.tail]

/-- The parts of a pattern of the names that end with a dot and a plain text. -/
def endingParts (ending : Text) : List Part :=
  .anyText :: .char '.' :: ending.map .char

/-- A star, a dot and a plain text are a pattern for an ending. -/
theorem parts?_ending (plain : Plain text) :
    parts? opened ("*.".toList ++ text) = some (endingParts text) := by
  have dotted : Plain ('.' :: text) := List.forall_mem_cons.mpr ⟨by decide, plain⟩
  have star : parts? opened ('*' :: '.' :: text) =
      (parts? false ('.' :: text)).map (.anyText :: ·) := by
    rw [parts?]
    all_goals simp
  exact star.trans (by rw [parts?_of_plain dotted]; rfl)

/-- Two stars as a whole piece stand for any number of directories. -/
theorem parts?_directories : parts? true "**".toList = some [.anyDirectories] := by
  show parts? true ['*', '*'] = _
  rw [parts?]
  rfl

/-- Two stars and a slash can begin any pattern that stands for something. -/
theorem isSome_parts?_directories :
    (parts? true ("**/".toList ++ rest)).isSome = (parts? true rest).isSome := by
  show (parts? true ('*' :: '*' :: '/' :: rest)).isSome = _
  rw [parts?, if_pos rfl, Option.isSome_map]

end Parts

section Accepts

/-- Some end of a text is accepted. -/
theorem anyRest_iff {accepts : Text → Bool} {text : Text} :
    anyRest accepts text = true ↔ ∃ rest, rest <:+ text ∧ accepts rest = true := by
  induction text with
  | nil => simp [anyRest]
  | cons char text inductionHypothesis =>
    simp only [anyRest, Bool.or_eq_true, inductionHypothesis, List.suffix_cons_iff, or_and_right,
      exists_or, exists_eq_left]

/-- A pattern of characters alone accepts the name of these characters. -/
theorem accepts_chars_iff {expected name : Text} :
    accepts (expected.map .char) name = true ↔ name = expected := by
  induction expected generalizing name with
  | nil => simp [accepts]
  | cons char expected inductionHypothesis =>
    cases name with
    | nil => simp [accepts]
    | cons head name => simp [accepts, Part.acceptsChar, inductionHypothesis]

/-- The names with an ending are those that end with a dot and the ending. -/
theorem accepts_endingParts_iff {ending name : Text} :
    accepts (endingParts ending) name = true ↔ '.' :: ending <:+ name := by
  have chars : (.char '.' :: ending.map .char : List Part) = ('.' :: ending).map .char := rfl
  rw [endingParts, accepts, anyRest_iff, chars]
  simp only [accepts_chars_iff, exists_eq_right]

end Accepts

namespace Piece

/-- A piece of characters alone is a name. -/
theorem ofParts_chars (text : Text) : ofParts (text.map .char) = .name text := by
  have literal : (text.map Part.char).mapM Part.literal? = some text := by
    induction text with
    | nil => rfl
    | cons char text inductionHypothesis => simp [Part.literal?, inductionHypothesis]
  rw [ofParts, if_neg (by simp), literal]

theorem ofParts_directories : ofParts [.anyDirectories] = .directories := rfl

theorem ofParts_endingParts (ending : Text) :
    ofParts (endingParts ending) = .pattern (endingParts ending) := by
  rw [ofParts, if_neg (by simp [endingParts])]
  rfl

end Piece

/-- The pattern for what is below a directory with an ending of its name. -/
def endingPattern (directory : Path) (ending : Text) : Text :=
  directory ++ "/**/*.".toList ++ ending

section Pattern

variable {directory : Path} {ending : Text}

/-- The pieces of the path come first, then the two that are written behind it. -/
theorem pieces_endingPattern (whole : '/' ∉ ending) :
    Path.pieces (endingPattern directory ending) =
      directory.pieces ++ ["**".toList, "*.".toList ++ ending] := by
  have name : '/' ∉ "*.".toList ++ ending := by simp [whole]
  have split : endingPattern directory ending =
      directory ++ "/".toList ++ "**".toList ++ "/".toList ++ ("*.".toList ++ ending) := by
    simp [endingPattern]
  rw [split, Path.pieces_append, Path.pieces_append, Path.pieces_of_not_mem name,
    @Path.pieces_of_not_mem "**".toList (by decide), List.append_assoc]
  rfl

/-- What is written for a plain directory and a plain ending is a pattern. -/
theorem isSome_parts?_endingPattern (plain : Plain directory) (simple : Plain ending) :
    (parts? true (endingPattern directory ending)).isSome = true := by
  have split : endingPattern directory ending =
      directory ++ '/' :: ("**/".toList ++ ("*.".toList ++ ending)) := by
    simp [endingPattern]
  rw [split, isSome_parts?_append plain, isSome_parts?_directories, parts?_ending simple]
  rfl

/-- The pieces of the pattern are names, any number of directories, and a name with the ending. -/
theorem mapM_cutPieces (plain : Plain directory) (simple : Plain ending) (whole : '/' ∉ ending) :
    ((cutPieces (endingPattern directory ending)).mapM (parts? true)).map
        (fun pieces => pieces.map Piece.ofParts) =
      some (directory.pieces.map .name ++ [.directories, .pattern (endingParts ending)]) := by
  have cut : cutPieces (endingPattern directory ending) =
      directory.pieces ++ ["**".toList, "*.".toList ++ ending] := by
    unfold cutPieces
    rw [← Path.pieces, pieces_endingPattern whole]
    simp
  have names (pieces : List Text) (plain : ∀ piece ∈ pieces, Plain piece) :
      pieces.mapM (parts? true) = some (pieces.map (List.map .char)) := by
    induction pieces with
    | nil => rfl
    | cons piece rest inductionHypothesis =>
      obtain ⟨piecePlain, restPlain⟩ := List.forall_mem_cons.mp plain
      rw [List.mapM_cons, parts?_of_plain piecePlain, inductionHypothesis restPlain]
      rfl
  have all (piece : Text) (member : piece ∈ directory.pieces) : Plain piece := plain.piece member
  rw [cut, List.mapM_append, names _ all, List.mapM_cons, List.mapM_cons, List.mapM_nil,
    parts?_directories, parts?_ending simple]
  simp [Piece.ofParts_chars, Piece.ofParts_directories, Piece.ofParts_endingParts,
    Function.comp_def]

end Pattern

/-- The path where a search along another path begins. -/
def origin (path : Path) : Path :=
  if path.isAbsolute then "/".toList else ".".toList

/-- A path seen from where a search along it begins. -/
def way : Path → Path
  | '/' :: rest => rest
  | path => path

section Search

variable {tree : FileTree} {current : Place} {directory : Path} {ending : Text}

/-- A sound pattern is searched from its origin, along its way. -/
theorem search_of_sound {pattern : Text} {pieces : List (List Part)}
    (sound : (parts? true pattern).isSome = true)
    (cut : (cutPieces (way pattern)).mapM (parts? true) = some pieces) :
    search tree current pattern = (Found.of? tree current (origin pattern)).toList.flatMap
      fun base => (Search.run ⟨tree, current, pattern.getLast? = some '/'⟩
        (pieces.map Piece.ofParts) base).map Found.path := by
  obtain ⟨parts, sound⟩ := Option.isSome_iff_exists.mp sound
  unfold search
  rw [sound]
  cases pattern with
  | nil =>
    simp only [way] at cut
    simp only [cut]
    rfl
  | cons char rest =>
    by_cases absolute : char = '/'
    · subst absolute
      simp only [way] at cut
      simp only [cut]
      rfl
    · have other (behind : Text) : char :: rest ≠ '/' :: behind := by simp [absolute]
      simp only [way] at cut
      simp only [cut, origin, Path.isAbsolute, List.head?_cons, Option.some.injEq, absolute,
        decide_false, Bool.false_eq_true, if_false]

/-- Where the search begins is decided by the beginning of the path. -/
theorem origin_append (some : directory ≠ []) (rest : Text) :
    origin (directory ++ rest) = origin directory := by
  rw [origin, origin, Path.isAbsolute_append some]

/-- What is written behind a path goes on with its way. -/
theorem way_append (some : directory ≠ []) (rest : Text) :
    way (directory ++ rest) = way directory ++ rest := by
  cases directory with
  | nil => contradiction
  | cons char directory =>
    by_cases absolute : char = '/'
    · subst absolute
      rfl
    · have other (behind : Text) : char :: directory ≠ '/' :: behind := by simp [absolute]
      have longer (behind : Text) : char :: (directory ++ rest) ≠ '/' :: behind := by
        simp [absolute]
      simp only [way, List.cons_append]

theorem Plain.way (plain : Plain directory) : Plain (way directory) := by
  unfold Glob.way
  split
  · exact plain.tail
  · exact plain

/-- A search for an ending goes along the names in the path of the directory and looks at
everything below. -/
theorem search_endingPattern (some : directory ≠ []) (plain : Plain directory)
    (simple : Plain ending) (whole : '/' ∉ ending) :
    search tree current (endingPattern directory ending) =
      (Found.of? tree current (origin directory)).toList.flatMap fun base =>
        (Search.run ⟨tree, current, false⟩ ((way directory).pieces.map .name ++
          [.directories, .pattern (endingParts ending)]) base).map Found.path := by
  have last : ¬ (endingPattern directory ending).getLast? = .some '/' := by
    have split : endingPattern directory ending =
        (directory ++ "/**/*".toList) ++ '.' :: ending := by
      simp [endingPattern]
    rw [split, List.getLast?_append_of_ne_nil _ (List.cons_ne_nil _ _)]
    intro ends
    rcases List.mem_cons.mp (List.mem_of_getLast? ends) with same | inEnding
    · exact absurd same (by decide)
    · exact whole inEnding
  have along : way (endingPattern directory ending) = endingPattern (way directory) ending := by
    rw [endingPattern, endingPattern, List.append_assoc, way_append some, List.append_assoc]
  have from_ : origin (endingPattern directory ending) = origin directory := by
    rw [endingPattern, List.append_assoc, origin_append some]
  obtain ⟨pieces, cut, made⟩ :=
    Option.map_eq_some_iff.mp (mapM_cutPieces plain.way simple whole)
  rw [search_of_sound (isSome_parts?_endingPattern plain simple) (along ▸ cut), made, from_,
    decide_eq_false last]

end Search

end PageTokens.Glob
