import PageTokens.Request

/-!
# The policy of automatic replacement

Two switches say for which requests the tokens of a rendered page are replaced.
-/

namespace PageTokens

/-- The two switches of automatic replacement. -/
structure HookPolicy where
  automatic : Bool
  frontendOnly : Bool
deriving DecidableEq

namespace HookPolicy

/-- The policy of a site that says nothing about it. -/
def standard : HookPolicy := ⟨true, true⟩

/-- The policy with automatic replacement switched off. -/
def disabled : HookPolicy := { standard with automatic := false }

/-- Whether the tokens of the page of a request are replaced. -/
def appliesTo (policy : HookPolicy) (request : Request) : Bool :=
  policy.automatic && !(policy.frontendOnly && request.isAdmin)

/-- A policy in which each switch may be set anew. -/
def override (policy : HookPolicy) (automatic frontendOnly : Option Bool) : HookPolicy :=
  ⟨automatic.getD policy.automatic, frontendOnly.getD policy.frontendOnly⟩

/-- Reads a policy. Both switches have to be there. -/
def reader : Reader HookPolicy :=
  .shape
    { title := "HookSettings".toList
      members := [
        .needed "automatic".toList .flag fun policy flag => { policy with automatic := flag },
        .needed "frontend_only".toList .flag fun policy flag =>
          { policy with frontendOnly := flag }]
      blank := standard
      surplus := .refused }

end HookPolicy
end PageTokens
