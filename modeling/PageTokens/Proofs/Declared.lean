import PageTokens.Proofs.Dispatch

/-!
# Passes without host code

A registry is declared when no token in it is host code. A pass over a declared
registry changes nothing but the text, and what comes of a token depends on its
callback, its call and nothing else. `result_resolve_congr` says when a token
fares alike at two sites and in two requests.
-/

namespace PageTokens

variable {H σ : Type}

/-- A callback that is no host code. -/
def Callback.Declared (callback : Callback H) : Prop :=
  ∀ code, callback ≠ .handler code

namespace Registry

/-- The callback under a name. -/
def callback? (registry : Registry H) (name : Text) : Option (Callback H) :=
  (registry.lookup name).map Definition.callback

/-- No token of the registry is host code. -/
def Declared (registry : Registry H) : Prop :=
  ∀ name callback, registry.callback? name = some callback → callback.Declared

end Registry

namespace Callback

variable {callback : Callback H}

/-- A call without host code leaves the site as it is. -/
theorem site_invoke (declared : callback.Declared) (host : Host H σ) (call : Call)
    (site : Site H σ) : (callback.invoke host call site).site = site := by
  cases callback with
  | handler code => exact absurd rfl (declared code)
  | fixed text => rfl
  | builtin name => rfl

/-- What a call without host code gives does not depend on the site. -/
theorem result_invoke_congr (declared : callback.Declared) (host : Host H σ) (call : Call)
    (first second : Site H σ) :
    (callback.invoke host call first).result = (callback.invoke host call second).result := by
  cases callback with
  | handler code => exact absurd rfl (declared code)
  | fixed text => rfl
  | builtin name => rfl

end Callback

/-- A resolution puts its result in the place of a token, or leaves the token. -/
theorem Resolution.textOr_eq_getD (literal : Text) (resolution : Resolution H σ) :
    resolution.textOr literal = resolution.result.toOption.getD literal := by
  unfold textOr
  cases resolution.result <;> rfl

/-- The obstacle is part of the result. -/
theorem Resolution.obstacle?_congr {one other : Resolution H σ}
    (same : one.result = other.result) : one.obstacle? = other.obstacle? := by
  rw [obstacle?, same, obstacle?]

/-- A segment with another text in the place of its token, where there is one. -/
def Segment.filled (marks : Marks) (fill : Text → Option Text) (segment : Segment) : Text :=
  segment.literal ++ (fill segment.body).getD (segment.token marks)

/-- The text of a page with other texts in the place of some of its tokens. -/
def Page.filled (marks : Marks) (fill : Text → Option Text) (page : Page) : Text :=
  page.segments.flatMap (Segment.filled marks fill) ++ page.tail

/-- Only the texts in the place of tokens of the page matter. -/
theorem Page.filled_congr (marks : Marks) {fill other : Text → Option Text} {page : Page}
    (same : ∀ segment ∈ page.segments, fill segment.body = other segment.body) :
    page.filled marks fill = page.filled marks other := by
  rw [filled, filled]
  congr 1
  refine List.flatMap_congr fun segment member => ?_
  rw [Segment.filled, Segment.filled, same segment member]

namespace Engine

variable (engine : Engine H σ) (request : Request)

/-- The result of a token, read off from the callback under its name. -/
theorem result_resolve (token : Token) (site : Site H σ) :
    (engine.resolve token request site).result =
      if isTokenName token.name then
        match site.registry.callback? token.name with
        | none => .error .noCallback
        | some callback =>
          if callback.isInvocable then
            (callback.invoke engine.host (token.call request) site).result.mapError .failed
          else .error .invalidCallback
      else .error .invalidName := by
  have resolves := engine.resolves_resolve request token site
  generalize engine.resolve token request site = resolution at resolves
  cases resolves with
  | unnamed refused => simp [refused, Resolution.refused]
  | unregistered named absent => simp [named, absent, Registry.callback?, Resolution.refused]
  | dangling definition named registered dangling =>
    have refused := Callback.isInvocable_eq_false_iff.mpr dangling
    simp [named, registered, refused, Registry.callback?, Resolution.refused]
  | called definition offered =>
    have sound : definition.callback.isInvocable = true := by
      simpa [← Callback.isInvocable_eq_false_iff] using offered.sound
    simp only [offered.named, offered.registered, sound, Registry.callback?, Option.map_some,
      if_true, Resolution.answered, Invocation.reply]
    cases (definition.callback.invoke engine.host (token.call request) site).result <;> rfl

variable {request}

/-- A token fares alike at two sites and in two requests when the same callback is under its name
and this callback gives the same in both. -/
theorem result_resolve_congr {other : Request} {token : Token} {first second : Site H σ}
    (callbacks : isTokenName token.name = true →
      first.registry.callback? token.name = second.registry.callback? token.name)
    (answers : isTokenName token.name = true → ∀ callback,
      first.registry.callback? token.name = some callback →
        (callback.invoke engine.host (token.call request) first).result =
          (callback.invoke engine.host (token.call other) second).result) :
    (engine.resolve token request first).result = (engine.resolve token other second).result := by
  rw [result_resolve, result_resolve]
  split
  · next named =>
    rw [← callbacks named]
    cases found : first.registry.callback? token.name with
    | none => rfl
    | some callback => simp only [answers named callback found]
  · rfl

/-- Without host code only the callback under its name makes a difference to a token. -/
theorem result_resolve_of_declared {token : Token} {first second : Site H σ}
    (declared : first.registry.Declared)
    (callbacks : first.registry.callback? token.name = second.registry.callback? token.name) :
    (engine.resolve token request first).result =
      (engine.resolve token request second).result := by
  refine engine.result_resolve_congr (fun _ => callbacks) fun _ callback found => ?_
  exact Callback.result_invoke_congr (declared token.name callback found) _ _ _ _

/-- Without host code a token leaves the site as it is. -/
theorem site_resolve_of_declared {site : Site H σ} (declared : site.registry.Declared)
    (token : Token) : (engine.resolve token request site).site = site := by
  have resolves := engine.resolves_resolve request token site
  generalize engine.resolve token request site = resolution at resolves
  cases resolves with
  | unnamed refused => rfl
  | unregistered named absent => rfl
  | dangling definition named registered dangling => rfl
  | called definition offered =>
    rw [site_answered]
    refine Callback.site_invoke (declared token.name definition.callback ?_) _ _ _
    rw [Registry.callback?, offered.registered, Option.map_some]

/-- Without host code every occurrence is resolved at the site of the beginning. -/
theorem resolutions_of_declared {site : Site H σ} (declared : site.registry.Declared)
    (found : List Occurrence) :
    engine.resolutions request found site =
      found.map fun occurrence => engine.resolve occurrence.token request site := by
  induction found with
  | nil => rfl
  | cons occurrence rest inductionHypothesis =>
    rw [resolutions, engine.site_resolve_of_declared declared, inductionHypothesis, List.map_cons]

variable (request)

/-- The text that takes the place of a token at a site, if any. -/
def replacement? (site : Site H σ) (token : Token) : Option Text :=
  (engine.resolve token request site).result.toOption

/-- The text that takes the place of a token with a given body at a site, if any. -/
def fill (site : Site H σ) (body : Text) : Option Text :=
  engine.replacement? request site (Token.ofBody engine.delimiters.toMarks body)

section Replacement

variable {engine request} {site : Site H σ} {token : Token}

/-- A token has a replacement when resolving it succeeds. -/
theorem replacement?_eq_some_iff {text : Text} :
    engine.replacement? request site token = some text ↔
      (engine.resolve token request site).result = .ok text := by
  rw [replacement?]
  cases (engine.resolve token request site).result <;> simp [Except.toOption]

/-- Without host code the replacement of a token follows from the callback under its name. -/
theorem replacement?_congr {other : Site H σ} (declared : site.registry.Declared)
    (callbacks : site.registry.callback? token.name = other.registry.callback? token.name) :
    engine.replacement? request site token = engine.replacement? request other token :=
  congrArg Except.toOption (engine.result_resolve_of_declared declared callbacks)

/-- A replacement is what the callback under the name of the token gives. -/
theorem callback_of_replacement? {text : Text}
    (replaced : engine.replacement? request site token = some text) :
    ∃ callback, site.registry.callback? token.name = some callback ∧
      (callback.invoke engine.host (token.call request) site).result = .ok text := by
  obtain ⟨-, definition, registered, -, gives⟩ :=
    (engine.resolve_result_eq_ok_iff request).mp (replacement?_eq_some_iff.mp replaced)
  exact ⟨definition.callback, by rw [Registry.callback?, registered, Option.map_some], gives⟩

/-- A token whose name has no callback has no replacement. -/
theorem replacement?_of_unknown (unknown : site.registry.callback? token.name = none) :
    engine.replacement? request site token = none := by
  refine Option.eq_none_iff_forall_ne_some.mpr fun text replaced => ?_
  obtain ⟨callback, known, -⟩ := callback_of_replacement? replaced
  rw [unknown] at known
  contradiction

end Replacement

/-- A diagnostic reports success exactly when there is a replacement. -/
theorem succeeded_eq_isSome (site : Site H σ) (occurrence : Occurrence) :
    ((engine.resolve occurrence.token request site).diagnostic occurrence).succeeded =
      (engine.replacement? request site occurrence.token).isSome := by
  rw [Resolution.diagnostic_succeeded, Resolution.obstacle?, replacement?]
  cases (engine.resolve occurrence.token request site).result <;> rfl

variable {request}

/-- Without host code each occurrence is reported as it fares at the site of the beginning. -/
theorem substitute_diagnostics_of_declared {site : Site H σ} (declared : site.registry.Declared)
    (text : Text) :
    (engine.substitute request text site).diagnostics =
      (occurrences engine.delimiters text).map fun occurrence =>
        (engine.resolve occurrence.token request site).diagnostic occurrence := by
  rw [substitute_diagnostics, engine.resolutions_of_declared declared, List.zipWith_map_right,
    List.zipWith_self]

/-- Without host code the text of a pass is the page with the replacements of its tokens. -/
theorem substitute_text_of_declared {site : Site H σ} (declared : site.registry.Declared)
    (text : Text) :
    (engine.substitute request text site).text =
      (Page.ofText engine.delimiters text).filled engine.delimiters.toMarks
        (engine.fill request site) := by
  rw [substitute_text, engine.resolutions_of_declared declared, occurrences]
  generalize Page.ofText engine.delimiters text = page
  obtain ⟨segments, tail⟩ := page
  generalize 0 = offset
  induction segments generalizing offset with
  | nil => rfl
  | cons segment rest inductionHypothesis =>
    simp only [Page.filled] at inductionHypothesis ⊢
    rw [Page.occurrencesFrom, List.map_cons, List.zipWith_cons_cons, Page.spliced_cons,
      inductionHypothesis, List.flatMap_cons, List.append_assoc _ _ tail,
      Resolution.textOr_eq_getD]
    rfl

/-- Passes over a text without host code give the same when each token fares alike in both. -/
theorem substitute_congr_of_declared {other : Request} {first second : Site H σ} {text : Text}
    (firstDeclared : first.registry.Declared) (secondDeclared : second.registry.Declared)
    (results : ∀ occurrence ∈ occurrences engine.delimiters text,
      (engine.resolve occurrence.token request first).result =
        (engine.resolve occurrence.token other second).result) :
    (engine.substitute request text first).text = (engine.substitute other text second).text ∧
      (engine.substitute request text first).diagnostics =
        (engine.substitute other text second).diagnostics := by
  constructor
  · rw [engine.substitute_text_of_declared firstDeclared,
      engine.substitute_text_of_declared secondDeclared]
    refine Page.filled_congr _ fun segment member => ?_
    obtain ⟨occurrence, inText, same⟩ := exists_occurrence member
    rw [fill, fill, replacement?, replacement?, ← same, results occurrence inText]
  · rw [engine.substitute_diagnostics_of_declared firstDeclared,
      engine.substitute_diagnostics_of_declared secondDeclared]
    refine List.map_congr_left fun occurrence inText => ?_
    rw [Resolution.diagnostic, Resolution.diagnostic,
      Resolution.obstacle?_congr (results occurrence inText)]

end Engine
end PageTokens
