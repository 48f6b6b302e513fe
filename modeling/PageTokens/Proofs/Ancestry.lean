import PageTokens.Proofs.Places

/-!
# The directories above a path

A directory stands above a path when the text of the path says so, whatever the
files are: the path begins with the text of the directory, has the components of
the directory and at least one more, and the text of the directory ends with its
last component. `parent?` gives the nearest of these directories
(`above_of_parent?`, `Above.atOrAbove_parent`) and fails only where there is none.

The proofs look at a path from its end: a path is one piece, or another path
with a slash and one more piece behind it (`slash_induction`).
-/

namespace PageTokens

namespace Component

/-- The piece of a path that stands for a component. -/
def spelling : Component → Text
  | root => []
  | current => ".".toList
  | parent => "..".toList
  | name text => text

/-- A component is spelled as the piece that stands for it. -/
theorem spelling_of_ofPiece? {piece : Text} {component : Component}
    (counts : ofPiece? piece = some component) : component.spelling = piece := by
  unfold ofPiece? at counts
  split at counts
  · contradiction
  · split at counts
    · next up =>
      rw [← Option.some.inj counts, up]
      rfl
    · rw [← Option.some.inj counts]
      rfl

/-- Empty pieces and single dots stand for no component. -/
theorem ofPiece?_eq_none_iff {piece : Text} :
    ofPiece? piece = none ↔ piece = [] ∨ piece = ".".toList := by
  unfold ofPiece?
  split
  · next idle => exact iff_of_true rfl idle
  · next counts =>
    refine iff_of_false ?_ counts
    split <;> exact Option.some_ne_none _

end Component

namespace Path

/-- A text that no shorter beginning can stand in for: what it begins with has other components. -/
def IsTight (directory : Path) : Prop :=
  ∀ shorter : Path, shorter <+: directory → shorter.components = directory.components →
    shorter = directory

/-- A directory above a path, by their texts alone. -/
structure Above (directory path : Path) : Prop where
  rooted : directory.isAbsolute = path.isAbsolute
  beginning : directory <+: path
  components : directory.components <+: path.components
  fewer : directory.components.length < path.components.length
  tight : directory.IsTight

/-- A path itself or a directory above it. -/
def AtOrAbove (directory path : Path) : Prop :=
  directory = path ∨ directory.Above path

/-- What is above a directory is above all that the directory is above. -/
theorem Above.trans {upper directory path : Path} (first : upper.Above directory)
    (second : directory.Above path) : upper.Above path where
  rooted := first.rooted.trans second.rooted
  beginning := first.beginning.trans second.beginning
  components := first.components.trans second.components
  fewer := first.fewer.trans second.fewer
  tight := first.tight

/-- A directory itself, too, is above what it is above. -/
theorem AtOrAbove.above {upper directory path : Path} (first : upper.AtOrAbove directory)
    (second : directory.Above path) : upper.Above path := by
  rcases first with rfl | above
  · exact second
  · exact above.trans second

/-- Of two paths only one stands above the other. -/
theorem AtOrAbove.antisymm {first second : Path} (upper : first.AtOrAbove second)
    (lower : second.AtOrAbove first) : first = second := by
  rcases upper with same | above
  · exact same
  · exact absurd (lower.above above).fewer (Nat.lt_irrefl _)

/-- A path is one piece, or a path, a slash and one more piece. -/
theorem slash_cases (path : Path) :
    '/' ∉ path ∨ ∃ front piece, path = front ++ "/".toList ++ piece ∧ '/' ∉ piece := by
  induction path using List.reverseRecOn with
  | nil => exact .inl List.not_mem_nil
  | append_singleton front char inductionHypothesis =>
    by_cases slash : char = '/'
    · exact .inr ⟨front, [], by simp [slash], List.not_mem_nil⟩
    · rcases inductionHypothesis with whole | ⟨before, piece, rfl, whole⟩
      · exact .inl (by simp [whole, Ne.symm slash])
      · exact .inr ⟨before, piece ++ [char], by simp, by simp [whole, Ne.symm slash]⟩

/-- A path is built from one piece by adding a slash and a piece again and again, so what holds of
one piece and is kept by each such step holds of all paths. -/
@[elab_as_elim]
theorem slash_induction {motive : Path → Prop} (path : Path)
    (whole : ∀ piece : Path, '/' ∉ piece → motive piece)
    (slash : ∀ front piece : Path, '/' ∉ piece → motive front →
      motive (front ++ "/".toList ++ piece)) : motive path := by
  obtain absent | ⟨front, piece, split, absent⟩ := slash_cases path
  · exact whole path absent
  · have shorter : front.length < path.length := by
      rw [split, List.length_append, List.length_append]
      have slash : "/".toList.length = 1 := rfl
      omega
    rw [split]
    exact slash front piece absent (slash_induction front whole slash)
termination_by path.length

section Components

variable {front piece : Path}

theorem slash_ne_nil : front ++ "/".toList ++ piece ≠ [] := by simp

/-- A piece behind a slash comes last. -/
theorem pieces_slash (whole : '/' ∉ piece) :
    (front ++ "/".toList ++ piece).pieces = front.pieces ++ [piece] := by
  rw [pieces_append, pieces_of_not_mem whole]

/-- A piece of its own has a component unless it is empty. -/
theorem components_piece (whole : '/' ∉ piece) (solid : piece ≠ []) :
    ∃ component : Component, piece.components = [component] ∧ component.spelling = piece := by
  by_cases dot : piece = ".".toList
  · subst dot
    exact ⟨.current, by decide +kernel, rfl⟩
  · cases counts : Component.ofPiece? piece with
    | none => exact absurd (Component.ofPiece?_eq_none_iff.mp counts) (not_or.mpr ⟨solid, dot⟩)
    | some component =>
      refine ⟨component, ?_, Component.spelling_of_ofPiece? counts⟩
      rw [components, pieces_of_not_mem whole, isAbsolute_of_not_mem whole]
      simp only [Bool.false_eq_true, if_false, if_neg dot, List.filterMap_cons_some counts]
      rfl

/-- More pieces behind a path give their components. -/
theorem components_of_pieces {path : Path} {more : List Text} (solid : front ≠ [])
    (longer : path.pieces = front.pieces ++ more) (begins : front <+: path) :
    path.components = front.components ++ more.filterMap Component.ofPiece? := by
  obtain ⟨behind, rfl⟩ := begins
  have some : front.pieces ≠ [] := Text.split_ne_nil (by decide) front
  rw [components, components, longer, isAbsolute_append solid]
  generalize front.pieces = pieces at some
  obtain ⟨first, rest, rfl⟩ := List.exists_cons_of_ne_nil some
  rw [List.filterMap_append, ← List.append_assoc]
  rfl

theorem components_nil : Path.components [] = [] := by decide +kernel

theorem components_root : Path.components "/".toList = [.root] := by decide +kernel

/-- A slash at the end does not count behind another piece. -/
theorem components_concat_slash (solid : front ≠ []) :
    (front ++ "/".toList).components = front.components := by
  have longer : (front ++ "/".toList).pieces = front.pieces ++ [[]] := by
    have slashed := @pieces_slash front [] List.not_mem_nil
    rwa [List.append_nil] at slashed
  rw [components_of_pieces solid longer (List.prefix_append _ _), List.filterMap_cons_none rfl]
  exact List.append_nil _

/-- A piece at the end gives a component if it counts. -/
theorem components_slash (whole : '/' ∉ piece) :
    (front ++ "/".toList ++ piece).components =
      (front ++ "/".toList).components ++ (Component.ofPiece? piece).toList := by
  have last : [piece].filterMap Component.ofPiece? = (Component.ofPiece? piece).toList := by
    rw [List.filterMap_eq_flatMap_toList, List.flatMap_singleton]
  by_cases solid : front = []
  · subst solid
    show Path.components ('/' :: piece) = Path.components "/".toList ++ _
    rw [components_root, components, pieces_cons_slash, pieces_of_not_mem whole,
      List.filterMap_cons_none rfl, last]
    rfl
  · rw [components_concat_slash solid, ← last]
    exact components_of_pieces solid (pieces_slash whole) ⟨"/".toList ++ piece, by simp⟩

/-- A piece without a component may be left away behind its slash. -/
theorem components_slash_of_idle (whole : '/' ∉ piece)
    (idle : Component.ofPiece? piece = none) :
    (front ++ "/".toList ++ piece).components = (front ++ "/".toList).components := by
  rw [components_slash whole, idle, Option.toList_none, List.append_nil]

/-- One more character at the end takes no component away. -/
theorem length_components_concat_le (path : Path) (char : Char) :
    path.components.length ≤ (path ++ [char]).components.length := by
  by_cases empty : path = []
  · rw [empty, components_nil]
    exact Nat.zero_le _
  by_cases slash : char = '/'
  · have same : (path ++ [char]).components = path.components := by
      rw [slash]
      exact components_concat_slash empty
    exact same ▸ Nat.le_refl _
  · rcases slash_cases path with whole | ⟨front, piece, rfl, whole⟩
    · obtain ⟨short, one, -⟩ := components_piece whole empty
      obtain ⟨long, other, -⟩ :=
        @components_piece (path ++ [char]) (by simp [whole, Ne.symm slash]) (by simp)
      rw [one, other]
      exact Nat.le_refl 1
    · have wholeStill : '/' ∉ piece ++ [char] := by simp [whole, Ne.symm slash]
      rw [List.append_assoc (front ++ "/".toList), components_slash whole,
        components_slash wholeStill, List.length_append, List.length_append]
      refine Nat.add_le_add_left ?_ _
      cases counts : Component.ofPiece? (piece ++ [char]) with
      | some component => exact Option.length_toList_le
      | none =>
        -- a longer piece that does not count is a single dot
        have idle : piece = [] := by
          rcases Component.ofPiece?_eq_none_iff.mp counts with none | dot
          · exact absurd none (by simp)
          · have short := congrArg List.length dot
            rw [List.length_append] at short
            exact List.eq_nil_of_length_eq_zero (Nat.succ.inj short)
        rw [idle]
        exact Nat.le_refl 0

/-- A longer text has at least as many components. -/
theorem length_components_mono {first second : Path} (begins : first <+: second) :
    first.components.length ≤ second.components.length := by
  obtain ⟨behind, rfl⟩ := begins
  induction behind using List.reverseRecOn with
  | nil => rw [List.append_nil]
  | append_singleton behind char inductionHypothesis =>
    rw [← List.append_assoc]
    exact inductionHypothesis.trans (length_components_concat_le _ char)

theorem isTight_nil : IsTight [] :=
  fun _ begins _ => List.prefix_nil.mp begins

/-- Nothing shorter stands for a piece of its own, nor for the root. -/
theorem isTight_piece (whole : '/' ∉ piece) (solid : piece ≠ []) : IsTight piece := by
  intro shorter begins same
  obtain ⟨component, one, spelled⟩ := components_piece whole solid
  by_cases empty : shorter = []
  · rw [empty, components_nil, one] at same
    contradiction
  · obtain ⟨other, single, otherSpelled⟩ :=
      components_piece (fun slash => whole (begins.subset slash)) empty
    rw [one, single] at same
    rw [← otherSpelled, ← spelled, (List.cons.inj same).1]

theorem isTight_root : IsTight "/".toList := by
  intro shorter begins same
  cases shorter with
  | nil =>
    rw [components_nil, components_root] at same
    contradiction
  | cons char rest => exact begins.eq_of_length_le (by simp)

/-- A path whose last piece counts ends with it. -/
theorem isTight_slash (whole : '/' ∉ piece) {component : Component}
    (counts : Component.ofPiece? piece = some component) :
    IsTight (front ++ "/".toList ++ piece) := by
  intro shorter begins same
  rw [components_slash whole, counts] at same
  rcases List.prefix_or_prefix_of_prefix begins (List.prefix_append _ piece) with within | beyond
  · have fewer := length_components_mono within
    rw [same, List.length_append] at fewer
    exact absurd fewer (Nat.not_succ_le_self _)
  · obtain ⟨rest, rfl⟩ := beyond
    have restWhole : '/' ∉ rest := by
      rw [List.prefix_append_right_inj] at begins
      exact fun slash => whole (begins.subset slash)
    rw [components_slash restWhole, List.append_cancel_left_eq] at same
    have restCounts : Component.ofPiece? rest = some component := by
      cases found : Component.ofPiece? rest with
      | none => rw [found] at same; contradiction
      | some other => rw [found] at same; exact congrArg some (List.cons.inj same).1
    rw [← Component.spelling_of_ofPiece? restCounts, ← Component.spelling_of_ofPiece? counts]

end Components

section Parent

variable {path front piece parent : Path}

/-- A piece without a component is dropped at the end. -/
theorem dropIdle_concat_of_idle {pieces : List Text} (idle : Component.ofPiece? piece = none) :
    dropIdle (pieces ++ [piece]) = dropIdle pieces := by
  simp [dropIdle, idle]

/-- Nothing is dropped in front of a piece with a component. -/
theorem dropIdle_concat_of_counts {pieces : List Text} {component : Component}
    (counts : Component.ofPiece? piece = some component) :
    dropIdle (pieces ++ [piece]) = pieces ++ [piece] := by
  simp [dropIdle, counts]

/-- The first piece is kept in any case. Of the pieces behind it the same is dropped as before. -/
theorem solidPieces_concat_of_idle {first : Text} {rest : List Text}
    (idle : Component.ofPiece? piece = none) :
    solidPieces (first :: (rest ++ [piece])) = solidPieces (first :: rest) := by
  rw [solidPieces, solidPieces, dropIdle_concat_of_idle idle]

theorem solidPieces_concat_of_counts {first : Text} {rest : List Text} {component : Component}
    (counts : Component.ofPiece? piece = some component) :
    solidPieces (first :: (rest ++ [piece])) = first :: (rest ++ [piece]) := by
  obtain ⟨second, others, more⟩ := List.exists_cons_of_ne_nil (List.concat_ne_nil piece rest)
  rw [solidPieces, dropIdle_concat_of_counts counts, more]

/-- A path in front of a slash without the pieces at its end that do not count. -/
def trimmed (path : Path) : Path :=
  if (path ++ "/".toList).isAbsolute then '/' :: Text.join "/".toList (dropIdle path.pieces.tail)
  else Text.join "/".toList (solidPieces path.pieces)

/-- The first piece of a path and the others. -/
theorem exists_pieces (path : Path) : ∃ first rest, path.pieces = first :: rest :=
  List.exists_cons_of_ne_nil (Text.split_ne_nil (by decide) path)

/-- The pieces of a path with slashes between them are the path. -/
theorem join_pieces (path : Path) : Text.join "/".toList path.pieces = path :=
  Text.join_split (by decide) path

/-- What is in front of a slash begins at the root exactly when the whole path does. -/
theorem isAbsolute_slash : (front ++ "/".toList ++ piece).isAbsolute =
    (front ++ "/".toList).isAbsolute :=
  isAbsolute_append (by simp)

/-- In front of a further slash a piece without a component does not count. -/
theorem trimmed_slash_of_idle (whole : '/' ∉ piece) (idle : Component.ofPiece? piece = none) :
    (front ++ "/".toList ++ piece).trimmed = front.trimmed := by
  obtain ⟨first, rest, pieces⟩ := exists_pieces front
  rw [trimmed, trimmed, pieces_slash whole, isAbsolute_append slash_ne_nil, isAbsolute_slash,
    pieces, List.cons_append, List.tail_cons, List.tail_cons, dropIdle_concat_of_idle idle,
    solidPieces_concat_of_idle idle]

/-- Nothing is trimmed behind a piece with a component. -/
theorem trimmed_slash_of_counts (whole : '/' ∉ piece) {component : Component}
    (counts : Component.ofPiece? piece = some component) :
    (front ++ "/".toList ++ piece).trimmed = front ++ "/".toList ++ piece := by
  obtain ⟨first, rest, pieces⟩ := exists_pieces front
  have slashed : (front ++ "/".toList ++ piece).pieces = first :: (rest ++ [piece]) := by
    rw [pieces_slash whole, pieces, List.cons_append]
  have joined := join_pieces (front ++ "/".toList ++ piece)
  rw [slashed] at joined
  rw [trimmed, isAbsolute_append slash_ne_nil, slashed, List.tail_cons,
    dropIdle_concat_of_counts counts, solidPieces_concat_of_counts counts]
  split
  · next absolute =>
    obtain ⟨behind, begins⟩ := List.head?_eq_some_iff.mp (of_decide_eq_true absolute)
    rw [begins, pieces_cons_slash] at slashed
    rw [begins, ← (List.cons.inj slashed).2, join_pieces]
  · exact joined

theorem trimmed_piece (whole : '/' ∉ piece) (solid : piece ≠ []) : piece.trimmed = piece := by
  rw [trimmed, isAbsolute_append solid, isAbsolute_of_not_mem whole, pieces_of_not_mem whole]
  simp [solidPieces, dropIdle, solid, Text.join_singleton]

theorem trimmed_nil : trimmed [] = "/".toList := by decide +kernel

theorem parent?_nil : parent? [] = none := by decide +kernel

/-- A piece of its own lies in the directory without a name. -/
theorem parent?_piece (whole : '/' ∉ piece) (solid : piece ≠ []) : piece.parent? = some [] := by
  rw [parent?, isAbsolute_of_not_mem whole, pieces_of_not_mem whole]
  simp [solidPieces, dropIdle, solid, Text.join, List.intercalate]

/-- A piece that does not count changes nothing. -/
theorem parent?_slash_of_idle (whole : '/' ∉ piece) (idle : Component.ofPiece? piece = none) :
    (front ++ "/".toList ++ piece).parent? = front.parent? := by
  obtain ⟨first, rest, pieces⟩ := exists_pieces front
  rw [parent?, parent?, pieces_slash whole, isAbsolute_slash, pieces, List.cons_append,
    List.tail_cons, List.tail_cons, dropIdle_concat_of_idle idle, solidPieces_concat_of_idle idle]
  by_cases empty : front = []
  · subst empty
    rw [pieces_of_not_mem List.not_mem_nil] at pieces
    obtain ⟨rfl, rfl⟩ := List.cons.inj pieces
    decide +kernel
  · rw [isAbsolute_append empty]

/-- A path whose last piece counts lies in what is in front of the piece. -/
theorem parent?_slash_of_counts (whole : '/' ∉ piece) {component : Component}
    (counts : Component.ofPiece? piece = some component) :
    (front ++ "/".toList ++ piece).parent? = some front.trimmed := by
  obtain ⟨first, rest, pieces⟩ := exists_pieces front
  rw [parent?, trimmed, pieces_slash whole, isAbsolute_slash, pieces, List.cons_append,
    List.tail_cons, List.tail_cons, dropIdle_concat_of_counts counts,
    solidPieces_concat_of_counts counts]
  split
  · obtain ⟨second, others, more⟩ := List.exists_cons_of_ne_nil (List.concat_ne_nil piece rest)
    rw [more]
    show some ('/' :: Text.join "/".toList (dropIdle (second :: others).dropLast)) = _
    rw [← more, List.dropLast_concat]
  · show some (Text.join "/".toList (solidPieces (first :: rest ++ [piece]).dropLast)) = _
    rw [List.dropLast_concat]

/-- What is in front of a slash, without the pieces at its end that do not count. -/
structure Trims (front trimmed : Path) : Prop where
  rooted : trimmed.isAbsolute = (front ++ "/".toList).isAbsolute
  beginning : trimmed <+: front ++ "/".toList
  components : trimmed.components = (front ++ "/".toList).components
  tight : trimmed.IsTight

/-- Trimming leaves this of a path. -/
theorem trims_trimmed (front : Path) : front.Trims front.trimmed := by
  induction front using slash_induction with
  | whole piece whole =>
    by_cases empty : piece = []
    · rw [empty, trimmed_nil]
      exact ⟨rfl, List.prefix_rfl, rfl, isTight_root⟩
    · rw [trimmed_piece whole empty]
      exact ⟨(isAbsolute_append empty).symm, List.prefix_append _ _,
        (components_concat_slash empty).symm, isTight_piece whole empty⟩
  | slash front piece whole inductionHypothesis =>
    have longer : front ++ "/".toList <+: front ++ "/".toList ++ piece ++ "/".toList := by
      rw [List.append_assoc]
      exact List.prefix_append _ _
    cases counts : Component.ofPiece? piece with
    | none =>
      rw [trimmed_slash_of_idle whole counts]
      constructor
      · rw [isAbsolute_append slash_ne_nil, isAbsolute_slash]
        exact inductionHypothesis.rooted
      · exact inductionHypothesis.beginning.trans longer
      · rw [components_concat_slash slash_ne_nil, components_slash_of_idle whole counts]
        exact inductionHypothesis.components
      · exact inductionHypothesis.tight
    | some component =>
      rw [trimmed_slash_of_counts whole counts]
      exact ⟨(isAbsolute_append slash_ne_nil).symm, List.prefix_append _ _,
        (components_concat_slash slash_ne_nil).symm, isTight_slash whole counts⟩

theorem above_piece (whole : '/' ∉ piece) (solid : piece ≠ []) : Above [] piece := by
  obtain ⟨component, one, -⟩ := components_piece whole solid
  refine ⟨(isAbsolute_of_not_mem whole).symm, List.nil_prefix, ?_, ?_, isTight_nil⟩
  · rw [components_nil]
    exact List.nil_prefix
  · rw [components_nil, one]
    exact Nat.zero_lt_one

/-- What stands above a path stands above it with a piece behind it that does not count. -/
theorem Above.slash_of_idle {directory : Path} (above : directory.Above front) (solid : front ≠ [])
    (whole : '/' ∉ piece) (idle : Component.ofPiece? piece = none) :
    directory.Above (front ++ "/".toList ++ piece) := by
  have same : (front ++ "/".toList ++ piece).components = front.components := by
    rw [components_slash_of_idle whole idle, components_concat_slash solid]
  refine ⟨?_, ?_, same ▸ above.components, same ▸ above.fewer, above.tight⟩
  · rw [isAbsolute_slash, isAbsolute_append solid]
    exact above.rooted
  · rw [List.append_assoc]
    exact above.beginning.trans (List.prefix_append _ _)

/-- A piece that counts adds its component behind those of the trimmed path. -/
theorem components_slash_of_counts (whole : '/' ∉ piece) {component : Component}
    (counts : Component.ofPiece? piece = some component) :
    (front ++ "/".toList ++ piece).components = front.trimmed.components ++ [component] := by
  rw [components_slash whole, counts, (trims_trimmed front).components]
  rfl

/-- What is in front of a piece that counts stands above it. -/
theorem above_slash_of_counts (whole : '/' ∉ piece) {component : Component}
    (counts : Component.ofPiece? piece = some component) :
    front.trimmed.Above (front ++ "/".toList ++ piece) := by
  have trims := trims_trimmed front
  have components := @components_slash_of_counts front piece whole component counts
  refine ⟨?_, trims.beginning.trans (List.prefix_append _ _), ?_, ?_, trims.tight⟩
  · rw [isAbsolute_slash]
    exact trims.rooted
  · rw [components]
    exact List.prefix_append _ _
  · rw [components, List.length_append]
    exact Nat.lt_succ_self _

/-- The parent of a path stands above it, with one component less. -/
theorem above_of_parent? (found : path.parent? = some parent) :
    parent.Above path ∧ ∃ last, path.components = parent.components ++ [last] := by
  induction path using slash_induction with
  | whole piece whole =>
    by_cases empty : piece = []
    · rw [empty, parent?_nil] at found
      contradiction
    · rw [parent?_piece whole empty] at found
      obtain rfl := Option.some.inj found
      obtain ⟨last, one, -⟩ := components_piece whole empty
      exact ⟨above_piece whole empty, last, by rw [components_nil, one]; rfl⟩
  | slash front piece whole inductionHypothesis =>
    cases counts : Component.ofPiece? piece with
    | none =>
      rw [parent?_slash_of_idle whole counts] at found
      have solid : front ≠ [] := by
        rintro rfl
        rw [parent?_nil] at found
        contradiction
      obtain ⟨above, last, components⟩ := inductionHypothesis found
      refine ⟨above.slash_of_idle solid whole counts, last, ?_⟩
      rw [components_slash_of_idle whole counts, components_concat_slash solid]
      exact components
    | some last =>
      rw [parent?_slash_of_counts whole counts] at found
      obtain rfl := Option.some.inj found
      exact ⟨above_slash_of_counts whole counts, last, components_slash_of_counts whole counts⟩

/-- Only the empty path and the root have nothing above them. -/
theorem cases_of_parent?_eq_none (none : path.parent? = none) :
    path = [] ∨ path.isAbsolute = true ∧ path.components = [.root] := by
  induction path using slash_induction with
  | whole piece whole =>
    by_cases empty : piece = []
    · exact .inl empty
    · rw [parent?_piece whole empty] at none
      contradiction
  | slash front piece whole inductionHypothesis =>
    cases counts : Component.ofPiece? piece with
    | some last =>
      rw [parent?_slash_of_counts whole counts] at none
      contradiction
    | none =>
      rw [parent?_slash_of_idle whole counts] at none
      rw [isAbsolute_slash, components_slash_of_idle whole counts]
      rcases inductionHypothesis none with rfl | ⟨absolute, components⟩
      · exact .inr ⟨rfl, components_root⟩
      · have solid : front ≠ [] := by
          rintro rfl
          contradiction
        rw [isAbsolute_append solid, components_concat_slash solid]
        exact .inr ⟨absolute, components⟩

/-- Nothing stands above a path without a parent. -/
theorem not_above_of_parent?_eq_none (none : path.parent? = none) (directory : Path) :
    ¬ directory.Above path := by
  intro above
  rcases cases_of_parent?_eq_none none with rfl | ⟨absolute, components⟩
  · have fewer := above.fewer
    rw [components_nil] at fewer
    exact Nat.not_lt_zero _ fewer
  · -- a directory that begins at the root has the root
    obtain ⟨behind, rfl⟩ :=
      List.head?_eq_some_iff.mp (of_decide_eq_true (above.rooted.trans absolute))
    have some := length_components_mono (List.prefix_append "/".toList behind)
    have fewer := above.fewer
    rw [components_root] at some
    rw [components] at fewer
    exact absurd fewer (Nat.not_lt.mpr some)

/-- What stands above a path is its parent or stands above its parent. -/
theorem Above.atOrAbove_parent {directory : Path} (above : directory.Above path)
    (found : path.parent? = some parent) : directory.AtOrAbove parent := by
  obtain ⟨parentAbove, last, components⟩ := above_of_parent? found
  have length : path.components.length = parent.components.length + 1 := by
    rw [components, List.length_append]
    rfl
  have few : directory.components.length ≤ parent.components.length := by
    have fewer := above.fewer
    omega
  have within : directory.components <+: parent.components :=
    List.prefix_of_prefix_length_le above.components parentAbove.components few
  rcases List.prefix_or_prefix_of_prefix above.beginning parentAbove.beginning with
    shorter | longer
  · by_cases same : directory.components = parent.components
    · exact .inl (parentAbove.tight directory shorter same)
    · refine .inr ⟨above.rooted.trans parentAbove.rooted.symm, shorter, within, ?_, above.tight⟩
      exact Nat.lt_of_le_of_ne few fun equal => same (within.eq_of_length equal)
  · have same : parent.components = directory.components :=
      (within.eq_of_length (Nat.le_antisymm few (length_components_mono longer))).symm
    exact .inl (above.tight parent longer same).symm

/-- Where there is no parent the path is its own only ancestor. -/
theorem ancestorsUpTo_of_parent?_eq_none (none : path.parent? = none) (limit : Nat) :
    ancestorsUpTo limit path = [path] := by
  cases limit with
  | zero => rfl
  | succ limit => rw [ancestorsUpTo, none]

/-- The bound on the number of ancestors is never felt: a path is followed by the ancestors of its
parent as long as there is a parent. -/
theorem ancestors_eq (path : Path) :
    path.ancestors = path :: (path.parent?.map ancestors).getD [] := by
  cases found : path.parent? with
  | none => exact ancestorsUpTo_of_parent?_eq_none found _
  | some parent =>
    obtain ⟨-, last, components⟩ := above_of_parent? found
    rw [ancestors, components, List.length_append, List.length_singleton, ancestorsUpTo, found]
    rfl

/-- Each directory is spelled as in the path, and the last one of a relative path has no name. -/
example : ancestors "site//pages/./index/".toList =
    ["site//pages/./index/".toList, "site//pages".toList, "site".toList, []] := by
  decide +kernel

end Parent

end Path
end PageTokens
