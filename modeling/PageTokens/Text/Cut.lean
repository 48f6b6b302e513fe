import PageTokens.Text.Basic

/-!
# Cutting a text at a separator

`cut?` cuts at the first place where a separator stands, `split` at every such
place, leftmost first and without overlap. Cutting gives the text back, and so
does joining the pieces of a split.
-/

namespace PageTokens.Text

/-- What follows `separator` at the beginning of a text. -/
def behind? : Text → Text → Option Text
  | [], text => some text
  | _ :: _, [] => none
  | char :: separator, head :: text =>
    if char = head then behind? separator text else none

/-- The text before and after the first place where `separator` stands. -/
def cut? (separator : Text) (text : Text) : Option (Text × Text) :=
  match behind? separator text with
  | some after => some ([], after)
  | none =>
    match text with
    | [] => none
    | char :: rest => (cut? separator rest).map fun (before, after) => (char :: before, after)

/-- Whether `separator` stands somewhere in a text. -/
def contains (separator text : Text) : Bool :=
  (cut? separator text).isSome

/-- A text put together from pieces with a separator between them. -/
def join (separator : Text) (pieces : List Text) : Text :=
  separator.intercalate pieces

/-- What stands behind a separator at the beginning of a text, if the text begins with it. -/
theorem behind?_eq_some_iff {separator text after : Text} :
    behind? separator text = some after ↔ text = separator ++ after := by
  induction separator generalizing text with
  | nil => simp [behind?, eq_comm]
  | cons char rest inductionHypothesis =>
    cases text with
    | nil => simp [behind?]
    | cons head tail =>
      by_cases same : char = head
      · subst same
        simp [behind?, inductionHypothesis]
      · have other : head ≠ char := fun equal => same equal.symm
        simp [behind?, same, other]

/-- A cut gives the text back. -/
theorem eq_of_cut? {separator text before after : Text}
    (found : cut? separator text = some (before, after)) :
    text = before ++ separator ++ after := by
  induction text generalizing before with
  | nil =>
    unfold cut? at found
    split at found
    · next rest start =>
      obtain ⟨rfl, rfl⟩ := Prod.mk.inj (Option.some.inj found)
      simpa using behind?_eq_some_iff.mp start
    · contradiction
  | cons char tail inductionHypothesis =>
    unfold cut? at found
    split at found
    · next rest start =>
      obtain ⟨rfl, rfl⟩ := Prod.mk.inj (Option.some.inj found)
      simpa using behind?_eq_some_iff.mp start
    · obtain ⟨⟨inner, rest⟩, cutTail, equal⟩ := Option.map_eq_some_iff.mp found
      obtain ⟨rfl, rfl⟩ := Prod.mk.inj equal
      simp [inductionHypothesis cutTail]

/-- What follows a separator that is not empty is shorter than the whole text. -/
theorem length_lt_of_cut? {separator text before after : Text} (solid : separator ≠ [])
    (found : cut? separator text = some (before, after)) : after.length < text.length := by
  have positive := List.length_pos_iff.mpr solid
  have lengths := congrArg List.length (eq_of_cut? found)
  simp only [List.length_append] at lengths
  omega

/-- The pieces of a text between the places where `separator` stands. -/
def pieces (separator : Text) (solid : separator ≠ []) (text : Text) : List Text :=
  match found : cut? separator text with
  | none => [text]
  | some (before, after) =>
    have : after.length < text.length := length_lt_of_cut? solid found
    before :: pieces separator solid after
termination_by text.length

/-- The pieces of a text between the places where `separator` stands. An empty
separator stands at both ends and between any two characters. -/
def split (separator text : Text) : List Text :=
  if solid : separator ≠ [] then pieces separator solid text
  else [] :: text.map (fun char => [char]) ++ [[]]

/-- Even the empty text is one piece. -/
theorem pieces_ne_nil {separator : Text} (solid : separator ≠ []) (text : Text) :
    pieces separator solid text ≠ [] := by
  unfold pieces
  split <;> simp

/-- Joining the pieces gives the text back. -/
theorem join_pieces (separator : Text) (solid : separator ≠ []) (text : Text) :
    join separator (pieces separator solid text) = text := by
  fun_induction pieces separator solid text with
  | case1 text found => simp [join, List.intercalate]
  | case2 text before after found _ inductionHypothesis =>
    obtain ⟨piece, rest, equal⟩ := List.exists_cons_of_ne_nil (pieces_ne_nil solid after)
    rw [equal] at inductionHypothesis ⊢
    rw [eq_of_cut? found, ← inductionHypothesis]
    simp [join, List.intercalate]

end PageTokens.Text
