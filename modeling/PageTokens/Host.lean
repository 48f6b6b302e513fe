import PageTokens.Registry

/-!
# Host code

Callbacks may be code of the program that renders the pages. `Host` says what
such code answers: a text or a message of failure, the changes it makes to the
registry while it runs, and the memory it keeps for its next call. Nothing else
is assumed about it. A program without host code has `Empty` for the type of its
references.
-/

namespace PageTokens

/-- What host code does when it is called. -/
structure Response (H σ : Type) where
  result : Except Text Text
  changes : List (Registry.Change H)
  memory : σ

/-- The host code behind the references of type `H`, with a memory of type `σ`. -/
structure Host (H σ : Type) where
  respond : H → Call → Registry H → σ → Response H σ

namespace Host

/-- The host without code. -/
def none : Host Empty Unit := ⟨fun reference => nomatch reference⟩

end Host

/-- What calls may change: the registry and the memory of the host code. -/
structure Site (H σ : Type) where
  registry : Registry H
  memory : σ

/-- What comes of a call. -/
structure Reply (H σ : Type) where
  result : Except Failure Text
  events : List Event
  site : Site H σ

namespace Callback

variable {H σ : Type}

/-- Calls a callback. Only host code changes the site. -/
def invoke (host : Host H σ) (callback : Callback H) (call : Call) (site : Site H σ) :
    Reply H σ :=
  match callback with
  | .handler code =>
    let response := host.respond code call site.registry site.memory
    { result := response.result.mapError Failure.reported
      events := site.registry.eventsOf response.changes
      site := ⟨site.registry.applyAll response.changes, response.memory⟩ }
  | .fixed text => ⟨.ok text, [], site⟩
  | .builtin name =>
    let result := match Builtin.ofName? name with
      | some found => found.run call
      | none => .error (.unknownBuiltin name)
    ⟨result, [], site⟩

end Callback
end PageTokens
