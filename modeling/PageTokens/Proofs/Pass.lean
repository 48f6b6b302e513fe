import PageTokens.Proofs.Grammar
import PageTokens.Substitution

/-!
# What a pass does, token by token

`Engine.resolutions` resolves the occurrences of a text one after the other, each
at the site that the one before it left. `fillSegments_eq` reads off everything
a pass gives from these resolutions: the text, the diagnostics, the calls, the
events and the site. Later modules speak of resolutions only.
-/

namespace PageTokens

variable {H σ : Type}

/-- A page with other texts in the place of its tokens. -/
def Page.spliced (page : Page) (texts : List Text) : Text :=
  (List.zipWith (fun segment text => segment.literal ++ text) page.segments texts).flatten ++
    page.tail

@[simp] theorem Page.spliced_nil (tail : Text) (texts : List Text) :
    Page.spliced ⟨[], tail⟩ texts = tail := rfl

@[simp] theorem Page.spliced_cons (segment : Segment) (segments : List Segment)
    (tail text : Text) (texts : List Text) :
    Page.spliced ⟨segment :: segments, tail⟩ (text :: texts) =
      segment.literal ++ text ++ Page.spliced ⟨segments, tail⟩ texts := by
  simp [Page.spliced]

namespace Resolution

/-- The diagnostic of an occurrence that is resolved. -/
def diagnostic (occurrence : Occurrence) (resolution : Resolution H σ) : Diagnostic :=
  ⟨occurrence.name, occurrence.span, resolution.obstacle?⟩

/-- A diagnostic reports a success when there was no obstacle. -/
theorem diagnostic_succeeded (occurrence : Occurrence) (resolution : Resolution H σ) :
    (resolution.diagnostic occurrence).succeeded = resolution.obstacle?.isNone := rfl

/-- A token without an obstacle has a replacement. -/
theorem obstacle?_eq_none_iff {resolution : Resolution H σ} :
    resolution.obstacle? = none ↔ ∃ text, resolution.result = .ok text := by
  unfold obstacle?
  cases resolution.result <;> simp

/-- A token that was replaced gives its replacement. -/
theorem textOr_of_ok {resolution : Resolution H σ} {text : Text}
    (replaced : resolution.result = .ok text) (literal : Text) :
    resolution.textOr literal = text := by
  rw [textOr, replaced]

theorem textOr_of_error {resolution : Resolution H σ} {obstacle : Obstacle}
    (kept : resolution.result = .error obstacle) (literal : Text) :
    resolution.textOr literal = literal := by
  rw [textOr, kept]

end Resolution

namespace Engine

variable (engine : Engine H σ) (request : Request)

/-- The resolutions of occurrences one after the other, each at the site that the one before
it left. -/
def resolutions : List Occurrence → Site H σ → List (Resolution H σ)
  | [], _ => []
  | occurrence :: rest, site =>
    let resolution := engine.resolve occurrence.token request site
    resolution :: resolutions rest resolution.site

/-- The site that the resolutions of occurrences leave. -/
def siteAfter (found : List Occurrence) (site : Site H σ) : Site H σ :=
  found.foldl (fun site occurrence => (engine.resolve occurrence.token request site).site) site

/-- Each occurrence is resolved once. -/
@[simp] theorem length_resolutions (found : List Occurrence) (site : Site H σ) :
    (engine.resolutions request found site).length = found.length := by
  induction found generalizing site with
  | nil => rfl
  | cons occurrence rest inductionHypothesis => simp [resolutions, inductionHypothesis]

/-- An occurrence is resolved at the site that the occurrences before it leave. -/
theorem getElem?_resolutions (found : List Occurrence) (site : Site H σ) (index : Nat) :
    (engine.resolutions request found site)[index]? = found[index]?.map fun occurrence =>
      engine.resolve occurrence.token request
        (engine.siteAfter request (found.take index) site) := by
  induction found generalizing site index with
  | nil => rfl
  | cons occurrence rest inductionHypothesis =>
    cases index with
    | zero => rfl
    | succ index =>
      rw [resolutions, List.getElem?_cons_succ, inductionHypothesis]
      rfl

/-- A token is replaced exactly when its name is the name of a token, a callback that can be
called is registered under it, and the call gives a text. This text is the replacement. -/
theorem resolve_result_eq_ok_iff {token : Token} {site : Site H σ} {text : Text} :
    (engine.resolve token request site).result = .ok text ↔
      isTokenName token.name = true ∧
        ∃ definition, site.registry.lookup token.name = some definition ∧
          definition.callbackValid = true ∧
          (definition.callback.invoke engine.host ⟨token.name, token.parameters, request⟩
            site).result = .ok text := by
  unfold resolve
  cases isTokenName token.name with
  | false => simp [Resolution.refused]
  | true =>
    cases site.registry.lookup token.name with
    | none => simp [Resolution.refused]
    | some definition =>
      cases valid : definition.callbackValid with
      | false => simp [Resolution.refused, valid]
      | true =>
        simp only [Bool.not_true, Bool.false_eq_true, if_false, Option.some.injEq, true_and,
          exists_eq_left', valid]
        generalize definition.callback.invoke engine.host _ site = reply
        unfold Resolution.answered
        cases reply.result <;> simp

/-- Everything that replacing the tokens of segments gives, read off from the resolutions of
their occurrences. -/
theorem fillSegments_eq (tail : Text) (offset : Nat) (segments : List Segment)
    (site : Site H σ) :
    let found := Page.occurrencesFrom engine.delimiters.toMarks offset segments
    let resolved := engine.resolutions request found site
    engine.fillSegments request tail offset segments site =
      { text := Page.spliced ⟨segments, tail⟩ (List.zipWith (fun segment resolution =>
          resolution.textOr (segment.token engine.delimiters.toMarks)) segments resolved)
        diagnostics := List.zipWith Resolution.diagnostic found resolved
        calls := resolved.flatMap Resolution.calls
        events := resolved.flatMap Resolution.events
        site := engine.siteAfter request found site } := by
  induction segments generalizing offset site with
  | nil => rfl
  | cons segment rest inductionHypothesis =>
    simp only [fillSegments, inductionHypothesis]
    simp [Page.occurrencesFrom, resolutions, siteAfter, Resolution.diagnostic]

/-- The early end of a pass over a text in which no token can begin hides nothing but the
report: replacing the tokens of the page gives the same. -/
theorem substitute_eq_fillPage (text : Text) (site : Site H σ) :
    let pass := engine.substitute request text site
    let filled := engine.fillPage request (Page.ofText engine.delimiters text) site
    pass.text = filled.text ∧ pass.diagnostics = filled.diagnostics ∧
      pass.calls = filled.calls ∧ pass.site = filled.site := by
  unfold substitute
  split
  · exact ⟨rfl, rfl, rfl, rfl⟩
  · next absent =>
    rw [Text.contains_iff_infix] at absent
    rw [Page.ofText_of_unclosed (.inl absent)]
    exact ⟨rfl, rfl, rfl, rfl⟩

/-- The diagnostics of a pass are those of the resolutions of the occurrences in the text. -/
theorem substitute_diagnostics (text : Text) (site : Site H σ) :
    (engine.substitute request text site).diagnostics =
      List.zipWith Resolution.diagnostic (occurrences engine.delimiters text)
        (engine.resolutions request (occurrences engine.delimiters text) site) := by
  rw [(engine.substitute_eq_fillPage request text site).2.1, fillPage, fillSegments_eq]
  rfl

/-- The text of a pass is the page with what the resolutions put in the place of its tokens. -/
theorem substitute_text (text : Text) (site : Site H σ) :
    (engine.substitute request text site).text =
      (Page.ofText engine.delimiters text).spliced (List.zipWith (fun segment resolution =>
          resolution.textOr (segment.token engine.delimiters.toMarks))
        (Page.ofText engine.delimiters text).segments
        (engine.resolutions request (occurrences engine.delimiters text) site)) := by
  rw [(engine.substitute_eq_fillPage request text site).1, fillPage, fillSegments_eq]
  rfl

/-- The calls of a pass are those of the resolutions of the occurrences in the text. -/
theorem substitute_invocations (text : Text) (site : Site H σ) :
    (engine.substitute request text site).calls =
      (engine.resolutions request (occurrences engine.delimiters text) site).flatMap
        Resolution.calls := by
  rw [(engine.substitute_eq_fillPage request text site).2.2.1, fillPage, fillSegments_eq]
  rfl

/-- A pass leaves the site that the resolutions of the occurrences leave. -/
theorem substitute_site (text : Text) (site : Site H σ) :
    (engine.substitute request text site).site =
      engine.siteAfter request (occurrences engine.delimiters text) site := by
  rw [(engine.substitute_eq_fillPage request text site).2.2.2, fillPage, fillSegments_eq]
  rfl

end Engine
end PageTokens
