import PageTokens.Proofs.Search

/-!
# Splitting and joining

The pieces of a split are parts of the text in which the separator does not
stand, and there are at least two of them when it stands in the text. `Parted`
says that a separator stands for the first time behind each of some pieces;
splitting undoes joining exactly for such pieces (`split_join_eq_iff`), and
pieces that share no character with the separator are of this kind.
-/

namespace PageTokens.Text

/-- Pieces that a separator between them keeps apart: behind each piece it stands for the first
time, and in the last piece it does not stand. -/
inductive Parted (separator : Text) : List Text → Prop
  | last {piece : Text} (absent : ¬ separator <:+: piece) : Parted separator [piece]
  | more {piece : Text} {rest : List Text} (leads : piece.LeadsTo separator)
      (behind : Parted separator rest) : Parted separator (piece :: rest)

section Parted

variable {separator first second : Text} {rest : List Text}

theorem Parted.ne_nil {pieces : List Text} (parted : Parted separator pieces) : pieces ≠ [] := by
  cases parted <;> exact List.cons_ne_nil _ _

/-- A single piece is parted when the separator is not in it. -/
theorem parted_singleton_iff : Parted separator [first] ↔ ¬ separator <:+: first := by
  constructor
  · intro parted
    cases parted with
    | last absent => exact absent
    | more leads behind => exact absurd rfl behind.ne_nil
  · exact .last

/-- Pieces are parted when each one leads to the separator behind it. -/
theorem parted_cons_cons_iff :
    Parted separator (first :: second :: rest) ↔
      first.LeadsTo separator ∧ Parted separator (second :: rest) := by
  constructor
  · intro parted
    cases parted with
    | more leads behind => exact ⟨leads, behind⟩
  · rintro ⟨leads, behind⟩
    exact .more leads behind

end Parted

variable {separator text before piece : Text} (solid : separator ≠ [])

include solid

/-- A text without the separator is one piece. -/
theorem split_of_not_infix (absent : ¬ separator <:+: text) : split separator text = [text] := by
  rw [split, dif_pos solid, pieces]
  split
  · rfl
  · next found =>
    rw [cut?_eq_none_iff.mpr absent] at found
    contradiction

/-- A piece ends at the first separator behind it. -/
theorem split_append (leads : LeadsTo before separator) (after : Text) :
    split separator (before ++ separator ++ after) = before :: split separator after := by
  rw [split, dif_pos solid, pieces, split, dif_pos solid]
  split
  · next found =>
    rw [cut?_append leads] at found
    contradiction
  · next found =>
    rw [cut?_append leads] at found
    obtain ⟨rfl, rfl⟩ := Prod.mk.inj (Option.some.inj found)
    rfl

/-- A text is one piece, or a first piece and the pieces of the rest. -/
theorem split_cases (text : Text) :
    (¬ separator <:+: text ∧ split separator text = [text]) ∨
      ∃ before after, text = before ++ separator ++ after ∧ LeadsTo before separator ∧
        split separator text = before :: split separator after := by
  cases found : cut? separator text with
  | none =>
    have absent := cut?_eq_none_iff.mp found
    exact .inl ⟨absent, split_of_not_infix solid absent⟩
  | some parts =>
    obtain ⟨rfl, leads⟩ := cut?_eq_some_iff.mp found
    exact .inr ⟨parts.1, parts.2, rfl, leads, split_append solid leads parts.2⟩

theorem split_ne_nil (text : Text) : split separator text ≠ [] := by
  rw [split, dif_pos solid]
  exact pieces_ne_nil solid text

/-- A piece is a part of the text, and the separator does not stand in it. -/
theorem infix_of_mem_split (member : piece ∈ split separator text) :
    piece <:+: text ∧ ¬ separator <:+: piece := by
  rw [split, dif_pos solid] at member
  fun_induction pieces separator solid text with
  | case1 text found =>
    rw [List.mem_singleton.mp member]
    exact ⟨List.infix_rfl, cut?_eq_none_iff.mp found⟩
  | case2 text before after found _ inductionHypothesis =>
    obtain ⟨whole, leads⟩ := cut?_eq_some_iff.mp found
    rcases List.mem_cons.mp member with rfl | inRest
    · exact ⟨⟨[], separator ++ after, by simp [whole]⟩, not_infix_of_leadsTo solid leads⟩
    · obtain ⟨within, absent⟩ := inductionHypothesis inRest
      refine ⟨within.trans ⟨before ++ separator, [], by simp [whole]⟩, absent⟩

/-- A separator that stands in a text makes at least two pieces of it. -/
theorem two_le_length_split (stands : separator <:+: text) :
    2 ≤ (split separator text).length := by
  rcases split_cases solid text with ⟨absent, -⟩ | ⟨before, after, -, -, several⟩
  · exact absurd stands absent
  · have rest := List.length_pos_iff.mpr (split_ne_nil solid after)
    rw [several, List.length_cons]
    omega

omit solid in
/-- A single piece is joined with nothing. -/
theorem join_singleton (separator piece : Text) : join separator [piece] = piece := by
  simp [join, List.intercalate]

omit solid in
/-- Between two pieces stands a separator. -/
theorem join_cons_cons (separator first second : Text) (rest : List Text) :
    join separator (first :: second :: rest) =
      first ++ separator ++ join separator (second :: rest) := by
  simp [join, List.intercalate]

omit solid in
/-- Pieces with a separator in front of each are a separator and what is joined from them. -/
theorem flatMap_append_eq_join (separator first : Text) (rest : List Text) :
    (first :: rest).flatMap (separator ++ ·) = separator ++ join separator (first :: rest) := by
  induction rest generalizing first with
  | nil => simp [join_singleton]
  | cons second rest inductionHypothesis =>
    rw [List.flatMap_cons, inductionHypothesis, join_cons_cons]
    simp

/-- To split a text and join the pieces gives the text. -/
theorem join_split (text : Text) : join separator (split separator text) = text := by
  rw [split, dif_pos solid, join_pieces]

/-- The pieces of a text are parted. -/
theorem parted_split (text : Text) : Parted separator (split separator text) := by
  rw [split, dif_pos solid]
  fun_induction Text.pieces separator solid text with
  | case1 text found => exact .last (cut?_eq_none_iff.mp found)
  | case2 text before after found _ inductionHypothesis =>
    exact .more (leadsTo_of_cut? found) inductionHypothesis

/-- Splitting undoes joining exactly for pieces that the separator keeps apart. -/
theorem split_join_eq_iff {pieces : List Text} :
    split separator (join separator pieces) = pieces ↔ Parted separator pieces := by
  constructor
  · intro same
    exact same ▸ parted_split solid _
  · intro parted
    induction parted with
    | last absent => rw [join_singleton, split_of_not_infix solid absent]
    | @more piece rest leads behind inductionHypothesis =>
      obtain ⟨second, others, rfl⟩ := List.exists_cons_of_ne_nil behind.ne_nil
      rw [join_cons_cons, split_append solid leads, inductionHypothesis]

/-- Pieces that share no character with the separator are parted. -/
theorem parted_of_disjoint {pieces : List Text} (some : pieces ≠ [])
    (apart : ∀ piece ∈ pieces, piece.Disjoint separator) : Parted separator pieces := by
  induction pieces with
  | nil => contradiction
  | cons first rest inductionHypothesis =>
    obtain ⟨firstApart, restApart⟩ := List.forall_mem_cons.mp apart
    cases rest with
    | nil => exact .last (not_infix_of_disjoint solid firstApart)
    | cons second rest =>
      exact .more (leadsTo_of_disjoint solid firstApart)
        (inductionHypothesis (List.cons_ne_nil _ _) restApart)

/-- Splitting undoes joining for pieces that share no character with the separator. -/
theorem split_join {pieces : List Text} (some : pieces ≠ [])
    (apart : ∀ piece ∈ pieces, piece.Disjoint separator) :
    split separator (join separator pieces) = pieces :=
  (split_join_eq_iff solid).mpr (parted_of_disjoint solid some apart)

omit solid in
/-- The separator stands in what is joined from two pieces or more. -/
theorem infix_join {pieces : List Text} (several : 2 ≤ pieces.length) :
    separator <:+: join separator pieces := by
  match pieces, several with
  | first :: second :: rest, _ =>
    rw [join_cons_cons]
    exact ⟨first, join separator (second :: rest), rfl⟩

omit solid in
/-- A character of what is joined comes from a piece or from the separator. -/
theorem mem_join {pieces : List Text} {char : Char} (member : char ∈ join separator pieces) :
    char ∈ separator ∨ ∃ piece ∈ pieces, char ∈ piece := by
  induction pieces with
  | nil => simp [join, List.intercalate] at member
  | cons first rest inductionHypothesis =>
    cases rest with
    | nil => exact .inr ⟨first, List.mem_singleton_self first, by rwa [join_singleton] at member⟩
    | cons second rest =>
      rw [join_cons_cons, List.mem_append, List.mem_append] at member
      rcases member with (inFirst | inSeparator) | inRest
      · exact .inr ⟨first, List.mem_cons_self, inFirst⟩
      · exact .inl inSeparator
      · rcases inductionHypothesis inRest with inSeparator | ⟨piece, inPieces, inPiece⟩
        · exact .inl inSeparator
        · exact .inr ⟨piece, List.mem_cons_of_mem _ inPieces, inPiece⟩

end PageTokens.Text
