import PageTokens.Occurrence
import PageTokens.Proofs.Search

/-!
# The grammar of pages

`Page.Formed` states which cuts of a text into literals, token bodies and a
tail the grammar allows. It says so through the parts alone, without a reader.
`formed_iff_eq_ofText` shows that every text has exactly one such cut and that
this is the one `Page.ofText` computes.

`occurrences_grammar` carries the cut over to the list of occurrences, their
byte ranges, and the answers of a cursor that is asked again and again.
-/

namespace PageTokens

/-- A text without a complete token: it holds no start delimiter, or no end
delimiter behind its first start delimiter. -/
def Marks.Unclosed (marks : Marks) (text : Text) : Prop :=
  ¬ marks.start <:+: text ∨
    ∃ literal rest, text = literal ++ marks.start ++ rest ∧
      literal.LeadsTo marks.start ∧ ¬ marks.stop <:+: rest

/-- A text without a complete token has none behind a front that is clear of the start
delimiter either. -/
theorem Marks.Unclosed.of_clear {marks : Marks} {front back : Text}
    (unclosed : marks.Unclosed back) (clear : Text.Clear marks.start front back) :
    marks.Unclosed (front ++ back) := by
  rcases unclosed with noStart | ⟨literal, rest, rfl, leads, noStop⟩
  · exact .inl (clear.not_infix noStart)
  · exact .inr ⟨front ++ literal, rest, by simp, clear.leadsTo leads, noStop⟩

namespace Segment

variable {marks : Marks} {text rest : Text} {segment : Segment}

/-- The first segment of a text is the one whose delimiters stand at their first places. -/
theorem first?_eq_some_iff :
    first? marks text = some (segment, rest) ↔
      text = segment.toText marks ++ rest ∧
        segment.literal.LeadsTo marks.start ∧ segment.body.LeadsTo marks.stop := by
  constructor
  · intro found
    refine ⟨eq_of_first? found, ?_⟩
    unfold first? at found
    split at found
    · contradiction
    · next literal opened start =>
      split at found
      · contradiction
      · next body after stop =>
        obtain ⟨rfl, rfl⟩ := Prod.mk.inj (Option.some.inj found)
        exact ⟨Text.leadsTo_of_cut? start, Text.leadsTo_of_cut? stop⟩
  · rintro ⟨rfl, literalLeads, bodyLeads⟩
    have opened : segment.toText marks ++ rest =
        segment.literal ++ marks.start ++ (segment.body ++ marks.stop ++ rest) := by
      simp [toText, token]
    rw [first?, opened, Text.cut?_append literalLeads]
    simp only [Text.cut?_append bodyLeads]

/-- A text has no first segment exactly when it has no complete token. -/
theorem first?_eq_none_iff : first? marks text = none ↔ marks.Unclosed text := by
  unfold first?
  constructor
  · intro absent
    split at absent
    · next start => exact .inl (Text.cut?_eq_none_iff.mp start)
    · next literal opened start =>
      split at absent
      · next stop =>
        obtain ⟨whole, leads⟩ := Text.cut?_eq_some_iff.mp start
        exact .inr ⟨literal, opened, whole, leads, Text.cut?_eq_none_iff.mp stop⟩
      · contradiction
  · rintro (noStart | ⟨literal, opened, rfl, leads, noStop⟩)
    · rw [Text.cut?_eq_none_iff.mpr noStart]
    · rw [Text.cut?_append leads]
      simp only [Text.cut?_eq_none_iff.mpr noStop]

end Segment

namespace Page

/-- A cut of a text as the grammar of pages allows it. -/
structure Formed (marks : Marks) (page : Page) : Prop where
  literals : ∀ segment ∈ page.segments, segment.literal.LeadsTo marks.start
  bodies : ∀ segment ∈ page.segments, segment.body.LeadsTo marks.stop
  tail : marks.Unclosed page.tail

variable {delimiters : Delimiters} {text rest : Text} {segment : Segment}

/-- A text without a closed token is all tail. -/
theorem ofText_of_unclosed (unclosed : delimiters.Unclosed text) :
    ofText delimiters text = ⟨[], text⟩ := by
  rw [ofText]
  split
  · rfl
  · next found =>
    rw [Segment.first?_eq_none_iff.mpr unclosed] at found
    contradiction

/-- A segment in front of a text is the first segment of the page. -/
theorem ofText_append (literalLeads : segment.literal.LeadsTo delimiters.start)
    (bodyLeads : segment.body.LeadsTo delimiters.stop) (rest : Text) :
    ofText delimiters (segment.toText delimiters.toMarks ++ rest) =
      ⟨segment :: (ofText delimiters rest).segments, (ofText delimiters rest).tail⟩ := by
  have first : Segment.first? delimiters.toMarks (segment.toText delimiters.toMarks ++ rest) =
      some (segment, rest) := Segment.first?_eq_some_iff.mpr ⟨rfl, literalLeads, bodyLeads⟩
  rw [ofText]
  split
  · next found =>
    rw [first] at found
    contradiction
  · next found =>
    rw [first] at found
    obtain ⟨rfl, rfl⟩ := Prod.mk.inj (Option.some.inj found)
    rfl

/-- The cut that is computed is one the grammar allows. -/
theorem formed_ofText (delimiters : Delimiters) (text : Text) :
    (ofText delimiters text).Formed delimiters.toMarks := by
  fun_induction ofText delimiters text with
  | case1 text found =>
    exact ⟨List.forall_mem_nil _, List.forall_mem_nil _, Segment.first?_eq_none_iff.mp found⟩
  | case2 text segment rest found _ page inductionHypothesis =>
    obtain ⟨-, literalLeads, bodyLeads⟩ := Segment.first?_eq_some_iff.mp found
    exact ⟨List.forall_mem_cons.mpr ⟨literalLeads, inductionHypothesis.literals⟩,
      List.forall_mem_cons.mpr ⟨bodyLeads, inductionHypothesis.bodies⟩,
      inductionHypothesis.tail⟩

/-- The text of a cut that the grammar allows is cut in the same way again. -/
theorem ofText_toText {page : Page} (formed : page.Formed delimiters.toMarks) :
    ofText delimiters (page.toText delimiters.toMarks) = page := by
  obtain ⟨segments, tail⟩ := page
  induction segments with
  | nil => exact ofText_of_unclosed formed.tail
  | cons segment segments inductionHypothesis =>
    obtain ⟨literalLeads, literals⟩ := List.forall_mem_cons.mp formed.literals
    obtain ⟨bodyLeads, bodies⟩ := List.forall_mem_cons.mp formed.bodies
    have remainder := inductionHypothesis ⟨literals, bodies, formed.tail⟩
    have whole : toText delimiters.toMarks ⟨segment :: segments, tail⟩ =
        segment.toText delimiters.toMarks ++ toText delimiters.toMarks ⟨segments, tail⟩ := by
      simp [toText]
    rw [whole, ofText_append literalLeads bodyLeads, remainder]

/-- The grammar allows exactly one cut of a text. -/
theorem formed_iff_eq_ofText {page : Page} :
    page.Formed delimiters.toMarks ∧ page.toText delimiters.toMarks = text ↔
      page = ofText delimiters text := by
  constructor
  · rintro ⟨formed, rfl⟩
    exact (ofText_toText formed).symm
  · rintro rfl
    exact ⟨formed_ofText delimiters text, toText_ofText delimiters text⟩

/-- The text of the segments in front of the segment with a given index. -/
def before (marks : Marks) (page : Page) (index : Nat) : Text :=
  (page.segments.take index).flatMap (Segment.toText marks)

end Page

/-- An occurrence of a token that stands behind a given part of a text. -/
structure Occurrence.Covers (text front token : Text) (occurrence : Occurrence) : Prop where
  stands : front ++ token <+: text
  span : occurrence.span = ⟨front.byteLength, (front ++ token).byteLength⟩
  literal : occurrence.literal text = token

/-- A byte range cuts out of a text what stands there. -/
theorem Occurrence.covers_of_span {text front token : Text} {occurrence : Occurrence}
    (stands : front ++ token <+: text)
    (span : occurrence.span = ⟨front.byteLength, (front ++ token).byteLength⟩) :
    occurrence.Covers text front token := by
  refine ⟨stands, span, ?_⟩
  obtain ⟨rest, rfl⟩ := stands
  simp [Occurrence.literal, span]

/-- The occurrences of the tokens of a page, one for each segment and in their order. -/
structure Page.Lists (marks : Marks) (page : Page) (found : List Occurrence) : Prop where
  length : found.length = page.segments.length
  covers : ∀ (index : Nat) (segment : Segment) (occurrence : Occurrence),
    page.segments[index]? = some segment → found[index]? = some occurrence →
      occurrence.Covers (page.toText marks) (page.before marks index ++ segment.literal)
        (segment.token marks)
  fields : ∀ (index : Nat) (segment : Segment) (occurrence : Occurrence),
    page.segments[index]? = some segment → found[index]? = some occurrence →
      occurrence.token = Token.ofBody marks segment.body ∧
        occurrence.rawParameters = (Token.cutBody marks segment.body).2

/-- Occurrences within a text of which each ends before the next begins. -/
structure Occurrence.Ordered (text : Text) (found : List Occurrence) : Prop where
  apart : found.Pairwise fun earlier later => earlier.span.stop ≤ later.span.start
  solid : ∀ occurrence ∈ found, occurrence.span.start < occurrence.span.stop
  within : ∀ occurrence ∈ found, occurrence.span.stop ≤ text.byteLength

namespace Page

variable {delimiters : Delimiters} {marks : Marks}

@[simp] theorem length_occurrencesFrom (marks : Marks) (offset : Nat) (segments : List Segment) :
    (occurrencesFrom marks offset segments).length = segments.length := by
  induction segments generalizing offset with
  | nil => rfl
  | cons segment rest inductionHypothesis => simp [occurrencesFrom, inductionHypothesis]

/-- Each occurrence begins behind the bytes of the segments in front of it. -/
theorem getElem?_occurrencesFrom (marks : Marks) (offset index : Nat) (segments : List Segment) :
    (occurrencesFrom marks offset segments)[index]? = segments[index]?.map fun segment =>
      segment.occurrence marks
        (offset + Text.byteLength ((segments.take index).flatMap (Segment.toText marks))) := by
  induction segments generalizing offset index with
  | nil => simp [occurrencesFrom]
  | cons segment rest inductionHypothesis =>
    cases index with
    | zero => simp [occurrencesFrom]
    | succ index => simp [occurrencesFrom, inductionHypothesis, Nat.add_assoc]

/-- The first occurrences are those of the first segments. -/
theorem take_occurrencesFrom (marks : Marks) (offset : Nat) (segments : List Segment)
    (count : Nat) :
    (occurrencesFrom marks offset segments).take count =
      occurrencesFrom marks offset (segments.take count) := by
  induction segments generalizing offset count with
  | nil => simp [occurrencesFrom]
  | cons segment rest inductionHypothesis =>
    cases count with
    | zero => rfl
    | succ count => simp only [occurrencesFrom, List.take_succ_cons, inductionHypothesis]

/-- The tokens of occurrences are read from the bodies of the segments. -/
theorem tokens_occurrencesFrom (marks : Marks) (offset : Nat) (segments : List Segment) :
    (occurrencesFrom marks offset segments).map Occurrence.token =
      (segments.map Segment.body).map (Token.ofBody marks) := by
  induction segments generalizing offset with
  | nil => rfl
  | cons segment rest inductionHypothesis =>
    rw [occurrencesFrom, List.map_cons, inductionHypothesis]
    rfl

/-- A page begins with the segments in front of a segment and the segment itself. -/
theorem before_append_prefix (marks : Marks) {page : Page} {index : Nat} {segment : Segment}
    (inPage : page.segments[index]? = some segment) :
    page.before marks index ++ segment.toText marks <+: page.toText marks := by
  obtain ⟨inRange, rfl⟩ := List.getElem?_eq_some_iff.mp inPage
  have whole := List.take_append_drop index page.segments
  rw [List.drop_eq_getElem_cons inRange] at whole
  refine ⟨(page.segments.drop (index + 1)).flatMap (Segment.toText marks) ++ page.tail, ?_⟩
  calc page.before marks index ++ page.segments[index].toText marks ++
        ((page.segments.drop (index + 1)).flatMap (Segment.toText marks) ++ page.tail)
      = (page.segments.take index ++ page.segments[index] ::
          page.segments.drop (index + 1)).flatMap (Segment.toText marks) ++ page.tail := by
        simp only [before, List.flatMap_append, List.flatMap_cons, List.append_assoc]
    _ = page.toText marks := by rw [whole, toText]

/-- The segments of a page are listed by their occurrences. -/
theorem lists_occurrencesFrom (marks : Marks) (page : Page) :
    page.Lists marks (occurrencesFrom marks 0 page.segments) := by
  have place : ∀ (index : Nat) (segment : Segment) (occurrence : Occurrence),
      page.segments[index]? = some segment →
      (occurrencesFrom marks 0 page.segments)[index]? = some occurrence →
        occurrence = segment.occurrence marks (page.before marks index).byteLength := by
    intro index segment occurrence inPage inList
    rw [getElem?_occurrencesFrom, inPage, Nat.zero_add] at inList
    exact (Option.some.inj inList).symm
  refine ⟨length_occurrencesFrom marks 0 page.segments, ?_, ?_⟩
  · intro index segment occurrence inPage inList
    obtain rfl := place index segment occurrence inPage inList
    apply Occurrence.covers_of_span
    · have stands := before_append_prefix marks inPage
      rwa [Segment.toText, ← List.append_assoc] at stands
    · simp [Segment.occurrence, Nat.add_assoc]
  · intro index segment occurrence inPage inList
    obtain rfl := place index segment occurrence inPage inList
    exact ⟨rfl, rfl⟩

/-- The occurrences of segments lie between the byte at which the segments begin and the one
at which they end. -/
theorem occurrencesFrom_within {offset : Nat} {segments : List Segment} {occurrence : Occurrence}
    (member : occurrence ∈ occurrencesFrom delimiters.toMarks offset segments) :
    offset ≤ occurrence.span.start ∧ occurrence.span.start < occurrence.span.stop ∧
      occurrence.span.stop ≤
        offset + Text.byteLength (segments.flatMap (Segment.toText delimiters.toMarks)) := by
  induction segments generalizing offset with
  | nil => contradiction
  | cons segment rest inductionHypothesis =>
    have positive := Text.byteLength_pos delimiters.start_ne_nil
    rcases List.mem_cons.mp member with rfl | inRest
    · simp only [Segment.occurrence, Segment.toText, Segment.token, List.flatMap_cons,
        Text.byteLength_append]
      omega
    · have bounds := inductionHypothesis inRest
      simp only [List.flatMap_cons, Text.byteLength_append] at bounds ⊢
      omega

/-- No occurrence begins before the one in front of it has ended. -/
theorem occurrencesFrom_apart (offset : Nat) (segments : List Segment) :
    (occurrencesFrom delimiters.toMarks offset segments).Pairwise
      fun earlier later => earlier.span.stop ≤ later.span.start := by
  induction segments generalizing offset with
  | nil => exact .nil
  | cons segment rest inductionHypothesis =>
    refine .cons (fun later member => ?_) (inductionHypothesis _)
    have behind := (occurrencesFrom_within member).1
    simp only [Segment.toText, Text.byteLength_append] at behind
    simp only [Segment.occurrence]
    omega

/-- The delimiters of all segments fit into the text of a page. -/
theorem length_mul_delimiters_le (marks : Marks) (page : Page) :
    page.segments.length * (marks.start.byteLength + marks.stop.byteLength) ≤
      (page.toText marks).byteLength := by
  obtain ⟨segments, tail⟩ := page
  simp only [toText, Text.byteLength_append]
  induction segments with
  | nil => simp
  | cons segment rest inductionHypothesis =>
    simp only [List.length_cons, Nat.add_one_mul, List.flatMap_cons, Text.byteLength_append,
      Segment.toText, Segment.token] at inductionHypothesis ⊢
    omega

end Page

/-- The occurrences of a text stand in it one behind the other. -/
theorem ordered_occurrences (delimiters : Delimiters) (text : Text) :
    Occurrence.Ordered text (occurrences delimiters text) := by
  refine ⟨Page.occurrencesFrom_apart 0 _, ?_, ?_⟩
  · intro occurrence member
    exact (Page.occurrencesFrom_within member).2.1
  · intro occurrence member
    have bound := (Page.occurrencesFrom_within member).2.2
    have whole := congrArg Text.byteLength (Page.toText_ofText delimiters text)
    simp only [Page.toText, Text.byteLength_append] at whole
    omega

/-- The occurrences of a text are the tokens of its page, each behind the segments in front of
it. -/
theorem getElem?_occurrences (delimiters : Delimiters) (text : Text) (index : Nat) :
    (occurrences delimiters text)[index]? =
      (Page.ofText delimiters text).segments[index]?.map fun segment =>
        segment.occurrence delimiters.toMarks
          ((Page.ofText delimiters text).before delimiters.toMarks index).byteLength := by
  rw [occurrences, Page.getElem?_occurrencesFrom, Nat.zero_add]
  rfl

/-- Each segment of the page of a text is an occurrence. -/
theorem exists_occurrence {delimiters : Delimiters} {text : Text} {segment : Segment}
    (member : segment ∈ (Page.ofText delimiters text).segments) :
    ∃ occurrence ∈ occurrences delimiters text,
      occurrence.token = Token.ofBody delimiters.toMarks segment.body := by
  refine List.mem_map.mp ?_
  rw [occurrences, Page.tokens_occurrencesFrom]
  exact List.mem_map_of_mem (List.mem_map_of_mem member)

namespace Cursor

/-- The place behind a number of calls of `next`. -/
def advance (delimiters : Delimiters) (cursor : Cursor) : Nat → Cursor
  | 0 => cursor
  | count + 1 => advance delimiters (cursor.next delimiters).2 count

/-- What the call of `next` with a given index answers. -/
def answer (delimiters : Delimiters) (cursor : Cursor) (index : Nat) : Option Occurrence :=
  ((cursor.advance delimiters index).next delimiters).1

/-- One call takes the first of the remaining tokens, when there is one. -/
theorem remaining_eq (delimiters : Delimiters) (cursor : Cursor) :
    cursor.remaining delimiters =
      (cursor.next delimiters).1.toList ++ (cursor.next delimiters).2.remaining delimiters := by
  unfold remaining next
  cases found : Segment.first? delimiters.toMarks cursor.rest with
  | none =>
    have empty : delimiters.Unclosed [] := by
      refine .inl fun stands => delimiters.start_ne_nil (List.infix_nil.mp stands)
    rw [Page.ofText_of_unclosed (Segment.first?_eq_none_iff.mp found)]
    simp [Page.ofText_of_unclosed empty, Page.occurrencesFrom]
  | some step =>
    obtain ⟨segment, rest⟩ := step
    obtain ⟨whole, literalLeads, bodyLeads⟩ := Segment.first?_eq_some_iff.mp found
    rw [whole, Page.ofText_append literalLeads bodyLeads]
    rfl

/-- A call without an answer leaves nothing. -/
theorem remaining_of_next_none {delimiters : Delimiters} {cursor : Cursor}
    (exhausted : (cursor.next delimiters).1 = none) : cursor.remaining delimiters = [] := by
  have step := remaining_eq delimiters cursor
  unfold next at step exhausted
  split at exhausted
  · next found =>
    have unclosed := Segment.first?_eq_none_iff.mp found
    rw [remaining, Page.ofText_of_unclosed unclosed]
    rfl
  · contradiction

/-- The calls of `next` answer with the remaining tokens in their order, and then with nothing. -/
theorem answer_eq_getElem? (delimiters : Delimiters) (cursor : Cursor) (index : Nat) :
    cursor.answer delimiters index = (cursor.remaining delimiters)[index]? := by
  induction index generalizing cursor with
  | zero =>
    cases answered : (cursor.next delimiters).1 with
    | none =>
      rw [remaining_of_next_none answered]
      exact answered
    | some occurrence =>
      rw [remaining_eq, answered]
      exact answered
  | succ index inductionHypothesis =>
    have later := inductionHypothesis (cursor.next delimiters).2
    cases answered : (cursor.next delimiters).1 with
    | none =>
      have left := remaining_of_next_none answered
      have leftLater := remaining_eq delimiters cursor
      rw [left, answered] at leftLater
      rw [left, answer, advance, ← answer, later, ← List.nil_append (remaining _ _)]
      exact congrArg (·[index]?) leftLater.symm
    | some occurrence =>
      rw [remaining_eq, answered]
      exact later

end Cursor

/-- The occurrences in a text are those of the one cut that the grammar allows. Their byte
ranges cut the tokens out of the text, in order and without overlap. A cursor that is asked
again and again answers with them one after the other, and with nothing ever after. -/
theorem occurrences_grammar (delimiters : Delimiters) (text : Text) :
    ∃ page : Page,
      (∀ other : Page, other.Formed delimiters.toMarks ∧ other.toText delimiters.toMarks = text ↔
        other = page) ∧
      page.Lists delimiters.toMarks (occurrences delimiters text) ∧
      Occurrence.Ordered text (occurrences delimiters text) ∧
      (occurrences delimiters text).length *
        (delimiters.start.byteLength + delimiters.stop.byteLength) ≤ text.byteLength ∧
      (∀ index, (Cursor.ofText text).answer delimiters index =
        (occurrences delimiters text)[index]?) ∧
      (∀ earlier later, earlier ≤ later →
        (Cursor.ofText text).answer delimiters earlier = none →
          (Cursor.ofText text).answer delimiters later = none) := by
  have answers : ∀ index, (Cursor.ofText text).answer delimiters index =
      (occurrences delimiters text)[index]? := fun index =>
    Cursor.answer_eq_getElem? delimiters (Cursor.ofText text) index
  refine ⟨Page.ofText delimiters text, fun other => Page.formed_iff_eq_ofText,
    Page.lists_occurrencesFrom _ _, ordered_occurrences delimiters text, ?_, answers, ?_⟩
  · have bound := Page.length_mul_delimiters_le delimiters.toMarks (Page.ofText delimiters text)
    rw [Page.toText_ofText] at bound
    rwa [occurrences, Page.length_occurrencesFrom]
  · intro earlier later order exhausted
    rw [answers, List.getElem?_eq_none_iff] at exhausted ⊢
    omega

end PageTokens
