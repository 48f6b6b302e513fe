import PageTokens.Token

/-!
# Occurrences of tokens in a text

A token begins at the first start delimiter and ends at the first end delimiter
after it. The next token is looked for behind it. A start delimiter without an
end delimiter is ordinary text. `Page.ofText` cuts a text into its tokens and
the texts around them, `Page.toText` puts it together again, and `occurrences`
lists the tokens with their places, counted in bytes.
-/

namespace PageTokens

/-- A token in a text: the text since the token before it, and the text between its delimiters. -/
structure Segment where
  literal : Text
  body : Text
deriving DecidableEq

/-- A text cut at its tokens: the segments, and the text behind the last token. -/
structure Page where
  segments : List Segment
  tail : Text
deriving DecidableEq

/-- A half-open range of byte positions. -/
structure Span where
  start : Nat
  stop : Nat
deriving DecidableEq

/-- A token found in a text. -/
structure Occurrence where
  name : Text
  span : Span
  rawParameters : Option Text
  parameters : Parameters
deriving DecidableEq

namespace Segment

/-- The text of the token of a segment. -/
def token (marks : Marks) (segment : Segment) : Text :=
  marks.start ++ segment.body ++ marks.stop

/-- The whole text of a segment. -/
def toText (marks : Marks) (segment : Segment) : Text :=
  segment.literal ++ segment.token marks

/-- The token of a segment that begins at a byte position. -/
def occurrence (marks : Marks) (offset : Nat) (segment : Segment) : Occurrence :=
  let start := offset + segment.literal.byteLength
  let token := Token.ofBody marks segment.body
  { name := token.name
    span := ⟨start, start + (segment.token marks).byteLength⟩
    rawParameters := (Token.cutBody marks segment.body).2
    parameters := token.parameters }

/-- The first segment of a text, and the text behind it. -/
def first? (marks : Marks) (text : Text) : Option (Segment × Text) :=
  match Text.cut? marks.start text with
  | none => none
  | some (literal, opened) =>
    match Text.cut? marks.stop opened with
    | none => none
    | some (body, rest) => some (⟨literal, body⟩, rest)

/-- The first segment and the text behind it are the whole text. -/
theorem eq_of_first? {marks : Marks} {text rest : Text} {segment : Segment}
    (found : first? marks text = some (segment, rest)) :
    text = segment.toText marks ++ rest := by
  unfold first? at found
  split at found
  · contradiction
  · next literal opened start =>
    split at found
    · contradiction
    · next body after stop =>
      obtain ⟨rfl, rfl⟩ := Prod.mk.inj (Option.some.inj found)
      rw [Text.eq_of_cut? start, Text.eq_of_cut? stop]
      simp [toText, token]

/-- The text behind a segment is shorter than the whole text. -/
theorem length_lt_of_first? {delimiters : Delimiters} {text rest : Text} {segment : Segment}
    (found : first? delimiters.toMarks text = some (segment, rest)) :
    rest.length < text.length := by
  have positive := List.length_pos_iff.mpr delimiters.start_ne_nil
  have lengths := congrArg List.length (eq_of_first? found)
  simp only [toText, token, List.length_append] at lengths
  omega

end Segment

namespace Page

/-- A text cut at its tokens. -/
def ofText (delimiters : Delimiters) (text : Text) : Page :=
  match found : Segment.first? delimiters.toMarks text with
  | none => ⟨[], text⟩
  | some (segment, rest) =>
    have : rest.length < text.length := Segment.length_lt_of_first? found
    let page := ofText delimiters rest
    ⟨segment :: page.segments, page.tail⟩
termination_by text.length

/-- The text that was cut. -/
def toText (marks : Marks) (page : Page) : Text :=
  page.segments.flatMap (Segment.toText marks) ++ page.tail

/-- The tokens of segments that begin at a byte position. -/
def occurrencesFrom (marks : Marks) (offset : Nat) : List Segment → List Occurrence
  | [] => []
  | segment :: rest =>
    segment.occurrence marks offset ::
      occurrencesFrom marks (offset + (segment.toText marks).byteLength) rest

/-- Cutting loses nothing. -/
theorem toText_ofText (delimiters : Delimiters) (text : Text) :
    (ofText delimiters text).toText delimiters.toMarks = text := by
  fun_induction ofText delimiters text with
  | case1 text found => simp [toText]
  | case2 text segment rest found _ page inductionHypothesis =>
    rw [Segment.eq_of_first? found]
    simpa [toText] using inductionHypothesis

end Page

/-- The tokens of a text, in their order. -/
def occurrences (delimiters : Delimiters) (text : Text) : List Occurrence :=
  Page.occurrencesFrom delimiters.toMarks 0 (Page.ofText delimiters text).segments

namespace Occurrence

/-- The part of a text that an occurrence covers. -/
def literal (text : Text) (occurrence : Occurrence) : Text :=
  Text.takeBytes (occurrence.span.stop - occurrence.span.start)
    (Text.dropBytes occurrence.span.start text)

/-- The token of an occurrence. -/
def token (occurrence : Occurrence) : Token :=
  ⟨occurrence.name, occurrence.parameters⟩

end Occurrence

/-- A place in a text up to which tokens have been looked for. -/
structure Cursor where
  offset : Nat
  rest : Text
deriving DecidableEq

namespace Cursor

/-- The place before a text. -/
def ofText (text : Text) : Cursor := ⟨0, text⟩

/-- The next token, and the place behind it. Without a further token the place
is the end of the text. -/
def next (delimiters : Delimiters) (cursor : Cursor) : Option Occurrence × Cursor :=
  match Segment.first? delimiters.toMarks cursor.rest with
  | none => (none, ⟨cursor.offset + cursor.rest.byteLength, []⟩)
  | some (segment, rest) =>
    (some (segment.occurrence delimiters.toMarks cursor.offset),
      ⟨cursor.offset + (segment.toText delimiters.toMarks).byteLength, rest⟩)

/-- The tokens from a place on. -/
def remaining (delimiters : Delimiters) (cursor : Cursor) : List Occurrence :=
  Page.occurrencesFrom delimiters.toMarks cursor.offset
    (Page.ofText delimiters cursor.rest).segments

/-- The place behind the last token from a place on. -/
def exhausted (delimiters : Delimiters) (cursor : Cursor) : Cursor :=
  match found : Segment.first? delimiters.toMarks cursor.rest with
  | none => (cursor.next delimiters).2
  | some (segment, rest) =>
    have : rest.length < cursor.rest.length := Segment.length_lt_of_first? found
    exhausted delimiters ⟨cursor.offset + (segment.toText delimiters.toMarks).byteLength, rest⟩
termination_by cursor.rest.length

end Cursor
end PageTokens
