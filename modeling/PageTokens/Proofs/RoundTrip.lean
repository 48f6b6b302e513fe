import PageTokens.Proofs.Fields
import PageTokens.Proofs.Grammar

/-!
# Written tokens read back

A document is a row of tokens to be written, each behind a literal text, and a
tail. `occurrences_written` shows that a written document is read as its tokens
again when their parts keep apart from the delimiters.

`readsBack_iff_ofBody` says for a single token, and for any delimiters, when its
text is read as this token. `readsBack_iff` turns this into conditions on the
parts of the token when the separators are single characters.
-/

namespace PageTokens

/-- A token to be written behind a literal text. -/
structure Passage where
  literal : Text
  token : Token

/-- Tokens to be written one after the other, and the text behind them. -/
structure Document where
  passages : List Passage
  tail : Text

/-- The text of a passage. -/
def Passage.written (marks : Marks) (passage : Passage) : Text :=
  passage.literal ++ passage.token.written marks

/-- The segment that a passage is written as. -/
def Passage.segment (marks : Marks) (passage : Passage) : Segment :=
  ⟨passage.literal, passage.token.body marks⟩

namespace Document

/-- The text of a document. -/
def written (marks : Marks) (document : Document) : Text :=
  document.passages.flatMap (Passage.written marks) ++ document.tail

/-- The text of the passages in front of the passage with a given index. -/
def before (marks : Marks) (document : Document) (index : Nat) : Text :=
  (document.passages.take index).flatMap (Passage.written marks)

/-- The page that a document is written as. -/
def page (marks : Marks) (document : Document) : Page :=
  ⟨document.passages.map (Passage.segment marks), document.tail⟩

/-- The page of a document is written as the document is. -/
@[simp] theorem toText_page (marks : Marks) (document : Document) :
    (document.page marks).toText marks = document.written marks := by
  simp only [page, Page.toText, List.flatMap_map]
  rfl

/-- In front of a token stands the same in the page as in the document. -/
@[simp] theorem before_page (marks : Marks) (document : Document) (index : Nat) :
    (document.page marks).before marks index = document.before marks index := by
  simp only [page, Page.before, ← List.map_take, List.flatMap_map]
  rfl

end Document

namespace Delimiters

variable {delimiters : Delimiters}

/-- Separators that share no character can be told apart within a token. -/
theorem separate_of_pairwise
    (apart : [delimiters.stop, delimiters.parameter, delimiters.keyValue,
      delimiters.multivalue].Pairwise List.Disjoint) : delimiters.Separate := by
  obtain ⟨-, inner⟩ := List.pairwise_cons.mp apart
  obtain ⟨parameterApart, innermost⟩ := List.pairwise_cons.mp inner
  obtain ⟨keyValueApart, -⟩ := List.pairwise_cons.mp innermost
  refine ⟨?_, ?_, ?_⟩
  · exact List.disjoint_symm (parameterApart _ List.mem_cons_self)
  · exact List.disjoint_symm (parameterApart _ (by simp))
  · exact List.disjoint_symm (keyValueApart _ List.mem_cons_self)

/-- Different separators of one character can be told apart within a token. -/
theorem separate_of_length_eq_one (parameter : delimiters.parameter.length = 1)
    (keyValue : delimiters.keyValue.length = 1) (multivalue : delimiters.multivalue.length = 1) :
    delimiters.Separate := by
  have distinct : ∀ first second : Role, (first, second) ∈ Role.pairs →
      (delimiters.get first).length = 1 → (delimiters.get second).length = 1 →
        (delimiters.get second).Disjoint (delimiters.get first) := by
    intro first second pair firstShort secondShort
    have different := delimiters.get_ne_get pair
    obtain ⟨firstChar, firstEq⟩ := List.length_eq_one_iff.mp firstShort
    obtain ⟨secondChar, secondEq⟩ := List.length_eq_one_iff.mp secondShort
    rw [firstEq, secondEq] at different ⊢
    simpa [eq_comm] using different
  refine ⟨?_, ?_, ?_⟩
  · exact distinct .parameter .keyValue (by decide) parameter keyValue
  · exact distinct .parameter .multivalue (by decide) parameter multivalue
  · exact distinct .keyValue .multivalue (by decide) keyValue multivalue

end Delimiters

/-- A document is written as a page of the grammar. -/
theorem Document.formed_page {delimiters : Delimiters} {document : Document}
    (apart : [delimiters.stop, delimiters.parameter, delimiters.keyValue,
      delimiters.multivalue].Pairwise List.Disjoint)
    (tokens : ∀ passage ∈ document.passages,
      passage.token.Free List.Disjoint delimiters.toMarks [delimiters.stop])
    (literals : ∀ passage ∈ document.passages, passage.literal.LeadsTo delimiters.start)
    (tail : ¬ delimiters.start <:+: document.tail) :
    (document.page delimiters.toMarks).Formed delimiters.toMarks := by
  refine ⟨?_, ?_, .inl tail⟩
  · intro segment member
    obtain ⟨passage, inPassages, rfl⟩ := List.mem_map.mp member
    exact literals passage inPassages
  · intro segment member
    obtain ⟨passage, inPassages, rfl⟩ := List.mem_map.mp member
    have stopApart : ∀ separator ∈ [delimiters.parameter, delimiters.keyValue,
        delimiters.multivalue], separator.Disjoint delimiters.stop := fun separator listed =>
      List.disjoint_symm ((List.pairwise_cons.mp apart).1 separator listed)
    refine Text.leadsTo_of_disjoint delimiters.stop_ne_nil ?_
    exact Token.disjoint_body (stopApart _ (by simp)) (stopApart _ (by simp))
      (stopApart _ (by simp)) (List.mem_singleton_self _) (tokens passage inPassages)

/-- A written document is read as its tokens, each where it was written. The start delimiter
may share characters with the other delimiters, with the tokens and with the literal texts. -/
theorem occurrences_written (delimiters : Delimiters) (document : Document)
    (apart : [delimiters.stop, delimiters.parameter, delimiters.keyValue,
      delimiters.multivalue].Pairwise List.Disjoint)
    (tokens : ∀ passage ∈ document.passages,
      passage.token.Free List.Disjoint delimiters.toMarks [delimiters.stop])
    (literals : ∀ passage ∈ document.passages, passage.literal.LeadsTo delimiters.start)
    (tail : ¬ delimiters.start <:+: document.tail) :
    (occurrences delimiters (document.written delimiters.toMarks)).length =
        document.passages.length ∧
      ∀ (index : Nat) (passage : Passage), document.passages[index]? = some passage →
        ∃ occurrence,
          (occurrences delimiters (document.written delimiters.toMarks))[index]? =
              some occurrence ∧
            occurrence.token = passage.token ∧
            occurrence.Covers (document.written delimiters.toMarks)
              (document.before delimiters.toMarks index ++ passage.literal)
              (passage.token.written delimiters.toMarks) := by
  have formed := Document.formed_page apart tokens literals tail
  have lists := Page.lists_occurrencesFrom delimiters.toMarks (document.page delimiters.toMarks)
  have found : occurrences delimiters (document.written delimiters.toMarks) =
      Page.occurrencesFrom delimiters.toMarks 0 (document.page delimiters.toMarks).segments := by
    rw [occurrences, ← Document.toText_page, Page.ofText_toText formed]
  rw [← found] at lists
  have length : (occurrences delimiters (document.written delimiters.toMarks)).length =
      document.passages.length := by
    rw [lists.length, Document.page, List.length_map]
  refine ⟨length, fun index passage inDocument => ?_⟩
  obtain ⟨inRange, -⟩ := List.getElem?_eq_some_iff.mp inDocument
  have inPage : (document.page delimiters.toMarks).segments[index]? =
      some (passage.segment delimiters.toMarks) := by
    simp [Document.page, inDocument]
  have inList := List.getElem?_eq_getElem (length ▸ inRange)
  refine ⟨_, inList, ?_, ?_⟩
  · have fields := (lists.fields index _ _ inPage inList).1
    rw [fields, Passage.segment]
    exact Token.ofBody_body (Delimiters.separate_of_pairwise apart)
      (tokens passage (List.mem_of_getElem? inDocument))
  · have covers := lists.covers index _ _ inPage inList
    rwa [Document.toText_page, Document.before_page] at covers

/-- Delimiters that overlap themselves, and a start delimiter that shares its characters with
two of them. -/
def Delimiters.crowded : Delimiters :=
  ⟨⟨"||:".toList, ";;".toList, "||".toList, "::".toList, ",,".toList⟩, by decide⟩

/-- A token with an empty value, a list with an empty item, an empty key and a value that
reads like the end of a key. -/
def Token.crowded : Token :=
  ⟨"list".toList, [.single [], .multi ["ü".toList, []]],
    .ofList [("k".toList, .single ":".toList), ([], .multi ["a b".toList, "c".toList])]⟩

/-- Two adjacent tokens behind a text that ends like the start delimiter begins. -/
def Document.crowded : Document :=
  ⟨[⟨"né|".toList, .crowded⟩, ⟨[], .crowded⟩], "|| :".toList⟩

/-- Delimiters that overlap leave a document readable: both tokens are found, the second one as it
was written. -/
theorem occurrences_written_crowded :
    (occurrences .crowded (Document.crowded.written Delimiters.crowded.toMarks)).length = 2 ∧
      ∃ occurrence,
        (occurrences .crowded (Document.crowded.written Delimiters.crowded.toMarks))[1]? =
            some occurrence ∧
          occurrence.token = .crowded := by
  have read := occurrences_written .crowded .crowded (by decide) (by decide) (by decide)
    (by decide)
  obtain ⟨occurrence, found, same, -⟩ := read.2 1 ⟨[], .crowded⟩ rfl
  exact ⟨read.1, occurrence, found, same⟩

namespace Token

/-- The text of a token is read as one occurrence that covers all of it and has the same
name and parameters. -/
def ReadsBack (delimiters : Delimiters) (token : Token) : Prop :=
  ∃ occurrence,
    occurrences delimiters (token.written delimiters.toMarks) = [occurrence] ∧
      occurrence.span = ⟨0, (token.written delimiters.toMarks).byteLength⟩ ∧
      occurrence.token = token

variable {delimiters : Delimiters} {token : Token}

/-- A token reads back when the end delimiter first stands behind its body and reading the
body gives the token. -/
theorem readsBack_iff_ofBody :
    token.ReadsBack delimiters ↔
      (token.body delimiters.toMarks).LeadsTo delimiters.stop ∧
        ofBody delimiters.toMarks (token.body delimiters.toMarks) = token := by
  constructor
  · rintro ⟨occurrence, single, span, same⟩
    have formed := Page.formed_ofText delimiters (token.written delimiters.toMarks)
    have lists := Page.lists_occurrencesFrom delimiters.toMarks
      (Page.ofText delimiters (token.written delimiters.toMarks))
    rw [← occurrences, single] at lists
    obtain ⟨segment, segments⟩ := List.length_eq_one_iff.mp lists.length.symm
    have covers := lists.covers 0 segment occurrence (by simp [segments]) rfl
    have fields := (lists.fields 0 segment occurrence (by simp [segments]) rfl).1
    have whole : occurrence.Covers (token.written delimiters.toMarks) []
        (token.written delimiters.toMarks) :=
      Occurrence.covers_of_span List.prefix_rfl (by simpa using span)
    have written : segment.token delimiters.toMarks = token.written delimiters.toMarks := by
      rw [← covers.literal, Page.toText_ofText, whole.literal]
    have body : segment.body = token.body delimiters.toMarks := by
      simpa [Segment.token, Token.written] using written
    rw [← body]
    exact ⟨formed.bodies segment (by simp [segments]), fields.symm.trans same⟩
  · rintro ⟨leads, same⟩
    have formed : Page.Formed delimiters.toMarks ⟨[⟨[], token.body delimiters.toMarks⟩], []⟩ := by
      refine ⟨?_, ?_, ?_⟩
      · simp [Text.leadsTo_nil]
      · simpa using leads
      · exact .inl fun stands => delimiters.start_ne_nil (List.infix_nil.mp stands)
    have text : Page.toText delimiters.toMarks ⟨[⟨[], token.body delimiters.toMarks⟩], []⟩ =
        token.written delimiters.toMarks := by
      simp [Page.toText, Segment.toText, Segment.token, Token.written]
    have cut := Page.ofText_toText formed
    rw [text] at cut
    refine ⟨Segment.occurrence delimiters.toMarks 0 ⟨[], token.body delimiters.toMarks⟩,
      ?_, ?_, same⟩
    · rw [occurrences, cut]
      rfl
    · simp [Segment.occurrence, Segment.token, Token.written]

/-- What is read from a body between separators of one character shares no character with the
separators that would end it. -/
theorem disjoint_ofBody (parameter : delimiters.parameter.length = 1)
    (keyValue : delimiters.keyValue.length = 1) (multivalue : delimiters.multivalue.length = 1)
    (body : Text) :
    (ofBody delimiters.toMarks body).Free List.Disjoint delimiters.toMarks [] := by
  have lacking : (ofBody delimiters.toMarks body).Free Text.Lacks delimiters.toMarks [] :=
    free_ofBody (List.forall_mem_nil _)
  refine lacking.mono fun separator listed text => Text.disjoint_of_not_infix ?_
  rcases List.mem_cons.mp listed with rfl | inner
  · exact parameter
  · rcases List.mem_pair.mp inner with rfl | rfl
    · exact keyValue
    · exact multivalue

/-- Between separators of one character, exactly the free tokens are read from their bodies. -/
theorem ofBody_body_iff (parameter : delimiters.parameter.length = 1)
    (keyValue : delimiters.keyValue.length = 1) (multivalue : delimiters.multivalue.length = 1) :
    ofBody delimiters.toMarks (token.body delimiters.toMarks) = token ↔
      token.Free List.Disjoint delimiters.toMarks [] := by
  constructor
  · intro same
    exact same ▸ disjoint_ofBody parameter keyValue multivalue _
  · intro free
    exact ofBody_body (Delimiters.separate_of_length_eq_one parameter keyValue multivalue) free

/-- Between separators of one character, a token reads back exactly when the end delimiter
first stands behind its body, its parts are trimmed and keep apart from the separators that
would end them, and its lists have two items or more. -/
theorem readsBack_iff (delimiters : Delimiters) (token : Token)
    (parameter : delimiters.parameter.length = 1) (keyValue : delimiters.keyValue.length = 1)
    (multivalue : delimiters.multivalue.length = 1) :
    token.ReadsBack delimiters ↔
      (token.body delimiters.toMarks).LeadsTo delimiters.stop ∧
        token.Free List.Disjoint delimiters.toMarks [] := by
  rw [readsBack_iff_ofBody, ofBody_body_iff parameter keyValue multivalue]

/-- The separator between key and value may stand in the value of a key, and a closing brace
may not end a token that two closing braces end. -/
theorem readsBack_iff_standard :
    ReadsBack .standard ⟨"a".toList, [], .ofList [("k".toList, .single "b:c".toList)]⟩ ∧
      ¬ ReadsBack .standard ⟨"a".toList, [.single "b\x7d".toList], .empty⟩ := by
  constructor
  · exact (readsBack_iff .standard _ (by decide) (by decide) (by decide)).mpr
      ⟨by decide, by decide⟩
  · intro reads
    have leads := ((readsBack_iff .standard _ (by decide) (by decide) (by decide)).mp reads).1
    exact absurd leads (by decide)

end Token
end PageTokens
