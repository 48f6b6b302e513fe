import PageTokens.HookPolicy
import PageTokens.Substitution

/-!
# The render hook

The host hands each rendered page to the hook on its way out, behind the cache
of rendered pages. The hook replaces the tokens of the page when its policy
covers the request, and leaves the page as it is otherwise.
-/

namespace PageTokens

/-- Automatic replacement by an engine under a policy. -/
structure RenderHook (H σ : Type) where
  policy : HookPolicy
  engine : Engine H σ

namespace RenderHook

variable {H σ : Type}

/-- Replaces the tokens of the page of a request, or leaves the page alone. -/
def afterRender (hook : RenderHook H σ) (request : Request) (page : Text) (site : Site H σ) :
    Pass H σ :=
  if hook.policy.appliesTo request then
    let pass := hook.engine.substitute request page site
    { pass with events := .hookApplied request.path page.byteLength :: pass.events }
  else
    { Pass.untouched page site with
      events := [.hookSkipped hook.policy.automatic request.isAdmin] }

end RenderHook
end PageTokens
