import PageTokens.Proofs.RoundTrip

/-!
# The normal form of a token

Reading a token drops the blanks around its parts and takes them apart at the
first separators, so no part holds what would have ended it. Writing the parts
puts the positional values first and the named ones in the order of their keys.
The new text is read as the same parts when the separators are single characters
(`ofBody_body_ofBody`), but it need not be read as a token: a part that ends
like the end delimiter begins can come to stand in front of it.

`occurrences_normalForm` says what the parts of every token that is found are
like, and when its normal form is a token again.
-/

namespace PageTokens

variable {delimiters : Delimiters} {text : Text} {occurrence : Occurrence}

/-- A token that is found was read from a body behind which the end delimiter first stands. -/
theorem Occurrence.exists_body (member : occurrence ∈ occurrences delimiters text) :
    ∃ body, body.LeadsTo delimiters.stop ∧
      occurrence.token = Token.ofBody delimiters.toMarks body := by
  have inTokens := List.mem_map_of_mem (f := Occurrence.token) member
  rw [occurrences, Page.tokens_occurrencesFrom, List.map_map] at inTokens
  obtain ⟨segment, inPage, same⟩ := List.mem_map.mp inTokens
  exact ⟨segment.body, (Page.formed_ofText delimiters text).bodies segment inPage, same.symm⟩

namespace Token

/-- Writing a token that was read and reading it again gives the same token. -/
theorem ofBody_body_ofBody (parameter : delimiters.parameter.length = 1)
    (keyValue : delimiters.keyValue.length = 1) (multivalue : delimiters.multivalue.length = 1)
    (body : Text) :
    ofBody delimiters.toMarks ((ofBody delimiters.toMarks body).body delimiters.toMarks) =
      ofBody delimiters.toMarks body :=
  (ofBody_body_iff parameter keyValue multivalue).mpr
    (disjoint_ofBody parameter keyValue multivalue body)

/-- What is found in the text of a token that reads back is written as this text. -/
theorem ReadsBack.written_eq {token : Token} (reads : token.ReadsBack delimiters)
    {again : Occurrence}
    (member : again ∈ occurrences delimiters (token.written delimiters.toMarks)) :
    again.token.written delimiters.toMarks = token.written delimiters.toMarks := by
  obtain ⟨occurrence, single, -, same⟩ := reads
  rw [single, List.mem_singleton] at member
  rw [member, same]

end Token

/-- The parts of a token that is found are trimmed, hold none of the separators that would end
them and no end delimiter, and its lists have two items or more. Between separators of one
character, its normal form is read back as the same token exactly when the end delimiter first
stands behind the body of the normal form, and then writing the token again changes nothing. -/
theorem occurrences_normalForm (member : occurrence ∈ occurrences delimiters text) :
    occurrence.token.Free Text.Lacks delimiters.toMarks [delimiters.stop] ∧
      (delimiters.parameter.length = 1 → delimiters.keyValue.length = 1 →
        delimiters.multivalue.length = 1 →
          (occurrence.token.ReadsBack delimiters ↔
            (occurrence.token.body delimiters.toMarks).LeadsTo delimiters.stop) ∧
          ((occurrence.token.body delimiters.toMarks).LeadsTo delimiters.stop →
            ∀ again ∈ occurrences delimiters (occurrence.token.written delimiters.toMarks),
              again.token.written delimiters.toMarks =
                occurrence.token.written delimiters.toMarks)) := by
  obtain ⟨body, leads, same⟩ := Occurrence.exists_body member
  constructor
  · rw [same]
    refine Token.free_ofBody fun mark listed => ?_
    rw [List.mem_singleton.mp listed]
    exact Text.not_infix_of_leadsTo delimiters.stop_ne_nil leads
  · intro parameter keyValue multivalue
    have reads : occurrence.token.ReadsBack delimiters ↔
        (occurrence.token.body delimiters.toMarks).LeadsTo delimiters.stop := by
      rw [Token.readsBack_iff_ofBody, same]
      exact and_iff_left (Token.ofBody_body_ofBody parameter keyValue multivalue body)
    exact ⟨reads, fun leadsAgain again => (reads.mpr leadsAgain).written_eq⟩

/-- The named value goes behind the other one, where its closing brace stands in front of those
that end the token. -/
theorem occurrences_normalForm_braces :
    let occurrence : Occurrence := ⟨"x".toList, ⟨0, 12⟩, some "k:a\x7d|b".toList,
      ⟨[.single "b".toList], .ofList [("k".toList, .single "a\x7d".toList)]⟩⟩
    occurrence ∈ occurrences .standard "\x7b\x7bx|k:a\x7d|b\x7d\x7d".toList ∧
      occurrence.token.written Marks.standard = "\x7b\x7bx|b|k:a\x7d\x7d\x7d".toList ∧
      occurrence.token.Free Text.Lacks Marks.standard [Marks.standard.stop] ∧
      ¬ occurrence.token.ReadsBack .standard := by
  intro occurrence
  have member : occurrence ∈ occurrences .standard "\x7b\x7bx|k:a\x7d|b\x7d\x7d".toList := by
    decide +kernel
  obtain ⟨free, reads⟩ := occurrences_normalForm member
  refine ⟨member, by decide, free, ?_⟩
  rw [(reads (by decide) (by decide) (by decide)).1]
  decide

end PageTokens
