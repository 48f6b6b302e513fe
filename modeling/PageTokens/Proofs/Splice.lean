import PageTokens.Proofs.Pass

/-!
# The text a pass leaves

A pass can be run with one copying cursor in the old text: the cursor moves only
when a token is replaced, and then the text that was held back is copied in one
piece. `Draft` is the new text in the making. `finish_writeAll` shows that no
mix of replaced and kept tokens makes a difference to copying token by token.

`substitute_splices` states the outcome of a pass: one diagnostic for each
occurrence, the callback's text for each replaced token, and the old text for
all the rest.
-/

namespace PageTokens

variable {H σ : Type}

/-- A new text in the making, and the byte up to which the old text is copied. -/
structure Draft where
  output : Text
  copied : Nat

namespace Draft

/-- A replacement is written behind the old text in front of its token. A kept token leaves
the draft as it is. -/
def write (old : Text) (draft : Draft) (span : Span) : Except Obstacle Text → Draft
  | .ok replacement =>
    ⟨draft.output ++
        Text.takeBytes (span.start - draft.copied) (Text.dropBytes draft.copied old) ++
        replacement,
      span.stop⟩
  | .error _ => draft

/-- The draft after a number of resolved occurrences. -/
def writeAll (old : Text) (draft : Draft) (steps : List (Occurrence × Resolution H σ)) : Draft :=
  steps.foldl (fun draft step => draft.write old step.1.span step.2.result) draft

/-- The draft with the rest of the old text. -/
def finish (old : Text) (draft : Draft) : Text :=
  draft.output ++ Text.dropBytes draft.copied old

theorem writeAll_cons (old : Text) (draft : Draft) (step : Occurrence × Resolution H σ)
    (steps : List (Occurrence × Resolution H σ)) :
    draft.writeAll old (step :: steps) =
      (draft.write old step.1.span step.2.result).writeAll old steps := rfl

variable {marks : Marks} {old done held tail rest : Text} {segment : Segment} {draft : Draft}

/-- A replacement takes the place of a token behind the text that is held back. -/
theorem write_ok (whole : old = done ++ held ++ segment.toText marks ++ rest)
    (copied : draft.copied = done.byteLength) (replacement : Text) :
    draft.write old (segment.occurrence marks (done ++ held).byteLength).span (.ok replacement) =
      ⟨draft.output ++ held ++ segment.literal ++ replacement,
        (done ++ held ++ segment.toText marks).byteLength⟩ := by
  have apart : old = done ++ ((held ++ segment.literal) ++ (segment.token marks ++ rest)) := by
    simp [whole, Segment.toText]
  have distance : (done ++ held).byteLength + segment.literal.byteLength - done.byteLength =
      (held ++ segment.literal).byteLength := by
    simp only [Text.byteLength_append]
    omega
  simp only [write, Segment.occurrence, copied, distance]
  rw [apart, Text.dropBytes_byteLength, Text.takeBytes_byteLength]
  simp [Segment.toText, Nat.add_assoc]

/-- Copying late gives what copying token by token gives. The draft holds what has become of
the part `done` of the old text; the part `held` behind it is not copied yet. -/
theorem finish_writeAll (draft : Draft) (done held : Text) {segments : List Segment}
    {resolved : List (Resolution H σ)}
    (whole : old = done ++ held ++ segments.flatMap (Segment.toText marks) ++ tail)
    (copied : draft.copied = done.byteLength) (complete : resolved.length = segments.length) :
    (draft.writeAll old
        ((Page.occurrencesFrom marks (done ++ held).byteLength segments).zip resolved)).finish old =
      draft.output ++ held ++
        Page.spliced ⟨segments, tail⟩ (List.zipWith (fun segment resolution =>
          resolution.textOr (segment.token marks)) segments resolved) := by
  induction segments generalizing resolved draft done held with
  | nil =>
    rw [whole, List.flatMap_nil, List.append_nil, List.append_assoc]
    simp [Page.occurrencesFrom, writeAll, finish, copied]
  | cons segment segments inductionHypothesis =>
    obtain ⟨resolution, resolved, rfl⟩ := List.exists_cons_of_length_eq_add_one complete
    have completeRest : resolved.length = segments.length := Nat.succ.inj complete
    rw [Page.occurrencesFrom, List.zip_cons_cons, writeAll_cons, List.zipWith_cons_cons,
      Page.spliced_cons, ← Text.byteLength_append]
    cases replaced : resolution.result with
    | error obstacle =>
      -- The token stays, so it joins the text that is held back.
      have wholeRest : old = done ++ (held ++ segment.toText marks) ++
          segments.flatMap (Segment.toText marks) ++ tail := by simp [whole]
      rw [List.append_assoc, write, inductionHypothesis draft _ _ wholeRest copied completeRest,
        Resolution.textOr_of_error replaced]
      simp [Segment.toText]
    | ok replacement =>
      -- The token is replaced, so the text that was held back is copied and nothing is held.
      have wholeStep : old = done ++ held ++ segment.toText marks ++
          (segments.flatMap (Segment.toText marks) ++ tail) := by simp [whole]
      have wholeRest : old = (done ++ held ++ segment.toText marks) ++ [] ++
          segments.flatMap (Segment.toText marks) ++ tail := by simp [whole]
      rw [write_ok wholeStep copied, ← List.append_nil (done ++ held ++ segment.toText marks),
        inductionHypothesis _ _ _ wholeRest (by simp) completeRest,
        Resolution.textOr_of_ok replaced]
      simp

/-- Kept tokens leave a draft as it is. -/
theorem writeAll_of_kept {steps : List (Occurrence × Resolution H σ)}
    (kept : ∀ step ∈ steps, step.2.obstacle? ≠ none) : draft.writeAll old steps = draft := by
  induction steps with
  | nil => rfl
  | cons step steps inductionHypothesis =>
    obtain ⟨stays, stayRest⟩ := List.forall_mem_cons.mp kept
    rw [writeAll_cons]
    cases replaced : step.2.result with
    | ok text => exact absurd (Resolution.obstacle?_eq_none_iff.mpr ⟨text, replaced⟩) stays
    | error obstacle => exact inductionHypothesis stayRest

end Draft

namespace Engine

variable (engine : Engine H σ) (request : Request)

/-- The outcome for one token: when its diagnostic reports success, the text its callback gives
at the site of its moment, else the text of the token. -/
structure Settles (site : Site H σ) (occurrence : Occurrence) (token : Text)
    (diagnostic : Diagnostic) (replacement : Text) : Prop where
  replaced : diagnostic.succeeded = true →
    ∃ definition, site.registry.lookup occurrence.name = some definition ∧
      (definition.callback.invoke engine.host
        ⟨occurrence.name, occurrence.parameters, request⟩ site).result = .ok replacement
  kept : diagnostic.succeeded = false → replacement = token

/-- Each token is settled as its resolution says. -/
theorem settles_resolve (site : Site H σ) (occurrence : Occurrence) (token : Text) :
    engine.Settles request site occurrence token
      ((engine.resolve occurrence.token request site).diagnostic occurrence)
      ((engine.resolve occurrence.token request site).textOr token) := by
  constructor
  · intro succeeded
    obtain ⟨text, replaced⟩ :=
      Resolution.obstacle?_eq_none_iff.mp (Option.isNone_iff_eq_none.mp succeeded)
    obtain ⟨-, definition, registered, -, answered⟩ :=
      (engine.resolve_result_eq_ok_iff request).mp replaced
    rw [Resolution.textOr_of_ok replaced]
    exact ⟨definition, registered, answered⟩
  · intro failed
    cases replaced : (engine.resolve occurrence.token request site).result with
    | ok text =>
      rw [Resolution.diagnostic_succeeded,
        Resolution.obstacle?_eq_none_iff.mpr ⟨text, replaced⟩] at failed
      contradiction
    | error obstacle => exact Resolution.textOr_of_error replaced token

/-- The diagnostics of a pass have the names and places of the occurrences in the old text. -/
theorem substitute_places (text : Text) (site : Site H σ) :
    (engine.substitute request text site).diagnostics.map
        (fun diagnostic => (diagnostic.name, diagnostic.span)) =
      (occurrences engine.delimiters text).map
        fun occurrence => (occurrence.name, occurrence.span) := by
  have complete : ((occurrences engine.delimiters text).zip
      (engine.resolutions request (occurrences engine.delimiters text) site)).map Prod.fst =
        occurrences engine.delimiters text := List.map_fst_zip (by simp)
  rw [substitute_diagnostics, ← List.map_uncurry_zip_eq_zipWith, List.map_map]
  conv_rhs => rw [← complete, List.map_map]
  rfl

/-- The text of a pass is what one copying cursor leaves. -/
theorem substitute_text_eq_finish (text : Text) (site : Site H σ) :
    (engine.substitute request text site).text =
      (Draft.writeAll text ⟨[], 0⟩ ((occurrences engine.delimiters text).zip
        (engine.resolutions request (occurrences engine.delimiters text) site))).finish text := by
  have whole := Page.toText_ofText engine.delimiters text
  have complete : (engine.resolutions request (occurrences engine.delimiters text) site).length =
      (Page.ofText engine.delimiters text).segments.length := by simp [occurrences]
  rw [substitute_text]
  exact (Draft.finish_writeAll ⟨[], 0⟩ [] [] whole.symm rfl complete).symm

/-- A pass without a replacement leaves the text as it is. -/
theorem substitute_text_of_replaced_eq_zero {text : Text} {site : Site H σ}
    (none : (engine.substitute request text site).replaced = 0) :
    (engine.substitute request text site).text = text := by
  rw [Pass.replaced, List.countP_eq_zero, substitute_diagnostics] at none
  rw [substitute_text_eq_finish, Draft.writeAll_of_kept]
  · exact Text.dropBytes_byteLength [] text
  · intro step member replaced
    refine none (step.2.diagnostic step.1) ?_ (Option.isNone_iff_eq_none.mpr replaced)
    rw [← List.map_uncurry_zip_eq_zipWith]
    exact List.mem_map_of_mem member

/-- A pass reports every occurrence of the old text in order and nothing else. Its text is the
old text with the callback's text, as it is, in the place of each token that is reported as
replaced. A cursor that copies late gives the same text, a pass without a replacement changes
nothing, and the early end of a pass hides no difference. -/
theorem substitute_splices (text : Text) (site : Site H σ) :
    let marks := engine.delimiters.toMarks
    let found := occurrences engine.delimiters text
    let pass := engine.substitute request text site
    let filled := engine.fillPage request (Page.ofText engine.delimiters text) site
    pass.diagnostics.map (fun diagnostic => (diagnostic.name, diagnostic.span)) =
        found.map (fun occurrence => (occurrence.name, occurrence.span)) ∧
      (∃ page : Page, page.Formed marks ∧ page.toText marks = text ∧ page.Lists marks found ∧
        ∃ texts : List Text, texts.length = page.segments.length ∧
          pass.text = page.spliced texts ∧
          ∀ (index : Nat) (segment : Segment) (occurrence : Occurrence) (diagnostic : Diagnostic)
            (replacement : Text), page.segments[index]? = some segment →
            found[index]? = some occurrence → pass.diagnostics[index]? = some diagnostic →
            texts[index]? = some replacement →
              engine.Settles request (engine.siteAfter request (found.take index) site)
                occurrence (segment.token marks) diagnostic replacement) ∧
      pass.text = (Draft.writeAll text ⟨[], 0⟩
        (found.zip (engine.resolutions request found site))).finish text ∧
      (pass.replaced = 0 → pass.text = text) ∧
      pass.text = filled.text ∧ pass.diagnostics = filled.diagnostics := by
  obtain ⟨sameText, sameDiagnostics, -, -⟩ := engine.substitute_eq_fillPage request text site
  refine ⟨engine.substitute_places request text site,
    ⟨Page.ofText engine.delimiters text, Page.formed_ofText _ _, Page.toText_ofText _ _,
      Page.lists_occurrencesFrom _ _, _, ?_, engine.substitute_text request text site, ?_⟩,
    engine.substitute_text_eq_finish request text site,
    engine.substitute_text_of_replaced_eq_zero request, sameText, sameDiagnostics⟩
  · simp [occurrences]
  · intro index segment occurrence diagnostic replacement inPage inFound reported put
    have resolved := engine.getElem?_resolutions request
      (occurrences engine.delimiters text) site index
    rw [inFound, Option.map_some] at resolved
    rw [substitute_diagnostics, List.getElem?_zipWith, inFound, resolved] at reported
    rw [List.getElem?_zipWith, inPage, resolved] at put
    rw [← Option.some.inj reported, ← Option.some.inj put]
    exact engine.settles_resolve request _ occurrence _

end Engine
end PageTokens
