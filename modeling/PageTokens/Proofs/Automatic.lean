import PageTokens.CommandLine.Replace
import PageTokens.Proofs.Splice

/-!
# Automatic and manual replacement

The tokens of a rendered page are replaced in two places: by the render hook,
and by the command line when it is told to follow the policy. `Covers` says for
which requests a replacer goes to work by itself. `process_of_covers` and
`afterRender_of_covers` find the same pass in both places, and for all other
requests both leave the page alone.

`process_agrees` states this for every replacer, and says what manual
replacement has in common with both.
-/

namespace PageTokens

variable {H σ : Type}

/-- A pass reports nothing exactly when there is no token in the text. -/
theorem Engine.substitute_diagnostics_eq_nil_iff (engine : Engine H σ) (request : Request)
    (text : Text) (site : Site H σ) :
    (engine.substitute request text site).diagnostics = [] ↔
      occurrences engine.delimiters text = [] := by
  have places := engine.substitute_places request text site
  constructor
  · intro silent
    rw [silent, List.map_nil] at places
    exact List.map_eq_nil_iff.mp places.symm
  · intro absent
    rw [absent, List.map_nil] at places
    exact List.map_eq_nil_iff.mp places

/-- A policy applies to a request when it is automatic and does not exempt the request as one of an
administrator. -/
theorem HookPolicy.appliesTo_iff {policy : HookPolicy} {request : Request} :
    policy.appliesTo request = true ↔
      policy.automatic = true ∧ ¬ (policy.frontendOnly = true ∧ request.isAdmin = true) := by
  unfold appliesTo
  cases policy.automatic <;> cases policy.frontendOnly <;> cases request.isAdmin <;> decide

namespace Replacer

variable {replacer : Replacer H σ} {hook : RenderHook H σ} {request : Request}

/-- The engine of a replacer that is not closed. -/
def engine? (replacer : Replacer H σ) : Option (Engine H σ) :=
  replacer.hook.map RenderHook.engine

/-- The same replacer under another policy. -/
def withPolicy (policy : HookPolicy) (replacer : Replacer H σ) : Replacer H σ :=
  { replacer with hook := replacer.hook.map fun hook => { hook with policy := policy } }

/-- The replacer replaces the tokens of the pages of a request by itself: it is not closed,
automatic replacement is on, and the request is not one of the administration that the policy
exempts. -/
structure Covers (replacer : Replacer H σ) (request : Request) : Prop where
  operational : replacer.isOperational = true
  automatic : replacer.policy.automatic = true
  admitted : ¬ (replacer.policy.frontendOnly = true ∧ request.isAdmin = true)

/-- The policy in force is enough to tell: that of a closed replacer applies to no request. -/
theorem appliesTo_iff_covers :
    replacer.policy.appliesTo request = true ↔ replacer.Covers request := by
  rw [HookPolicy.appliesTo_iff]
  constructor
  · rintro ⟨automatic, admitted⟩
    refine ⟨?_, automatic, admitted⟩
    cases found : replacer.hook with
    | none => simp [policy, found, HookPolicy.disabled] at automatic
    | some hook => simp [isOperational, found]
  · rintro ⟨-, automatic, admitted⟩
    exact ⟨automatic, admitted⟩

/-- A replacer that covers a request has a hook whose policy applies to it. -/
theorem Covers.exists_hook (covers : replacer.Covers request) :
    ∃ hook, replacer.hook = some hook ∧ hook.policy.appliesTo request = true := by
  obtain ⟨hook, found⟩ := Option.isSome_iff_exists.mp covers.operational
  have applies := appliesTo_iff_covers.mpr covers
  rw [policy, found] at applies
  exact ⟨hook, found, applies⟩

/-- A replacer with a hook passes over a text as the engine of the hook does. -/
theorem substitute_of_hook (found : replacer.hook = some hook) (text : Text) (site : Site H σ) :
    replacer.substitute request text site = hook.engine.substitute request text site := by
  rw [substitute, found]

theorem substitute_of_closed (closed : replacer.isOperational = false) (text : Text)
    (site : Site H σ) : replacer.substitute request text site = .untouched text site := by
  rw [substitute, Option.isSome_eq_false_iff.mp closed |> Option.isNone_iff_eq_none.mp]

/-- A covered request is processed like any other. -/
theorem process_of_covers (covers : replacer.Covers request) (text : Text) (site : Site H σ) :
    replacer.process true request text site = replacer.substitute request text site := by
  simp [process, appliesTo_iff_covers.mpr covers]

/-- For an exempt request the text is left alone, and no callback is called. -/
theorem process_of_not_covers (exempt : ¬ replacer.Covers request) (text : Text)
    (site : Site H σ) : replacer.process true request text site = .untouched text site := by
  rw [← appliesTo_iff_covers, Bool.not_eq_true] at exempt
  simp [process, exempt]

/-- The render hook runs the pass of manual replacement and reports that it does. -/
theorem afterRender_of_covers (covers : replacer.Covers request) (text : Text)
    (site : Site H σ) :
    replacer.afterRender request text site =
      { replacer.substitute request text site with
        events := .hookApplied request.path text.byteLength ::
          (replacer.substitute request text site).events } := by
  obtain ⟨hook, found, applies⟩ := covers.exists_hook
  rw [substitute_of_hook found, afterRender, found]
  simp only [RenderHook.afterRender, applies, if_true]

/-- The render hook leaves alone the page of a request that is not covered. -/
theorem afterRender_of_not_covers (exempt : ¬ replacer.Covers request) (text : Text)
    (site : Site H σ) :
    ∃ events, replacer.afterRender request text site =
      { Pass.untouched text site with events := events } := by
  cases found : replacer.hook with
  | none => exact ⟨[], by rw [afterRender, found]; rfl⟩
  | some hook =>
    rw [← appliesTo_iff_covers, policy, found, Bool.not_eq_true] at exempt
    refine ⟨[.hookSkipped hook.policy.automatic request.isAdmin], ?_⟩
    rw [afterRender, found]
    simp [RenderHook.afterRender, exempt]

/-- The policy decides whether there is a pass, not what the pass does. -/
theorem substitute_withPolicy (policy : HookPolicy) (text : Text) (site : Site H σ) :
    (replacer.withPolicy policy).substitute request text site =
      replacer.substitute request text site := by
  rw [substitute, substitute, withPolicy]
  cases replacer.hook <;> rfl

/-- Under the policy the command line makes of a page what the render hook makes of it, and leaves
the site as the hook does. Manual replacement gives what replacing the tokens of a text gives, and
no policy makes a difference to it. Both are passes of the engine as far as there is an engine and,
under the policy, the request is covered; otherwise they leave the text alone. Under the policy
nothing is reported exactly for a request that is not covered or a text without a token. -/
theorem process_agrees (replacer : Replacer H σ) (request : Request) (text : Text)
    (site : Site H σ) :
    let automatic := replacer.process true request text site
    let manual := replacer.process false request text site
    let rendered := replacer.afterRender request text site
    (automatic.text = rendered.text ∧ automatic.diagnostics = rendered.diagnostics ∧
        automatic.calls = rendered.calls ∧ automatic.site = rendered.site) ∧
      manual.text = replacer.replaceTokens request text site ∧
      (∀ policy, (replacer.withPolicy policy).process false request text site = manual) ∧
      (∀ engine, replacer.engine? = some engine →
        manual = engine.substitute request text site ∧
          (replacer.Covers request → automatic = engine.substitute request text site)) ∧
      (replacer.isOperational = false → manual = .untouched text site) ∧
      (¬ replacer.Covers request → automatic = .untouched text site) ∧
      (automatic.diagnostics = [] ↔ ¬ replacer.Covers request ∨
        ∀ delimiters, replacer.delimiters? = some delimiters →
          occurrences delimiters text = []) := by
  intro automatic manual rendered
  refine ⟨?_, rfl, fun policy => substitute_withPolicy policy text site, ?_,
    fun closed => substitute_of_closed closed text site,
    fun exempt => process_of_not_covers exempt text site, ?_⟩
  · by_cases covers : replacer.Covers request
    · simp only [automatic, rendered, process_of_covers covers, afterRender_of_covers covers,
        and_self]
    · obtain ⟨events, leftAlone⟩ := afterRender_of_not_covers covers text site
      simp only [automatic, rendered, process_of_not_covers covers, leftAlone, and_self]
  · intro engine usable
    obtain ⟨hook, found, rfl⟩ := Option.map_eq_some_iff.mp usable
    refine ⟨substitute_of_hook found text site, fun covers => ?_⟩
    exact (process_of_covers covers text site).trans (substitute_of_hook found text site)
  · by_cases covers : replacer.Covers request
    · obtain ⟨hook, found, -⟩ := covers.exists_hook
      simp only [automatic, process_of_covers covers, substitute_of_hook found,
        Engine.substitute_diagnostics_eq_nil_iff, delimiters?, found, covers, not_true, false_or,
        Option.map_some, Option.some.injEq, forall_eq']
    · simp [automatic, process_of_not_covers covers, covers, Pass.untouched]

end Replacer
end PageTokens
