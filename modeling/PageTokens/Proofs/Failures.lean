import Mathlib.Data.List.Forall2
import PageTokens.Proofs.Interference

/-!
# When tokens fail

Without host code a token can fail only where it is replaced by something that
the request has: by an attribute or by the path. `Registry.Asks` says which
tokens these are, and `Registry.Fails` which of them find nothing, neither in
the request nor in a default of their own.

`substitute_decided` states that exactly these tokens are reported as failed,
with what is missing in the message, and what the others are replaced by.
-/

namespace PageTokens

variable {H σ : Type}

namespace Registry

/-- A token that is replaced by what a request has, with the value in the request, if it is there,
and the message that it is missing. -/
inductive Asks (registry : Registry H) (request : Request) (token : Token) :
    Option Text → Text → Prop
  | ofAttribute (named : isTokenName token.name = true)
      (stands : registry.callback? token.name = some (.builtin "context".toList)) :
      Asks registry request token (request.attribute? token.attributeKey)
        ("request attribute ".toList ++ Text.inApostrophes token.attributeKey ++
          " is not set".toList)
  | ofPath (named : isTokenName token.name = true)
      (stands : registry.callback? token.name = some (.builtin "path".toList)) :
      Asks registry request token request.path "request has no path".toList

/-- A token that asks for what the request does not have, and has no default. -/
structure Fails (registry : Registry H) (request : Request) (token : Token) (message : Text) :
    Prop where
  unset : registry.Asks request token none message
  undefaulted : token.parameters.get? "default".toList = none

/-- What is reported of a token without host code, and what takes its place. -/
structure Decides (registry : Registry H) (request : Request) (token : Token)
    (diagnostic : Diagnostic) (replacement : Option Text) : Prop where
  failed : diagnostic.label = "callback-failed".toList ↔
    ∃ message, registry.Fails request token message
  detail : ∀ message, diagnostic.detail? = some message ↔ registry.Fails request token message
  succeeded : diagnostic.label = "succeeded".toList ↔
    (∃ definition, registry.Offers token.name definition) ∧
      ∀ message, ¬ registry.Fails request token message
  kept : replacement = none ↔ diagnostic.label ≠ "succeeded".toList
  /-- A value that is there is shown, whatever the default is. -/
  present : ∀ value message, registry.Asks request token (some value) message →
    replacement = some value
  /-- The default is shown for a value that is missing. -/
  missing : ∀ value message, registry.Asks request token none message →
    token.parameters.get? "default".toList = some value →
      replacement = some (value.join ", ".toList)
  spared : token.parameters.get? "default".toList ≠ none →
    diagnostic.label ≠ "callback-failed".toList

end Registry

namespace Builtin

/-- A value fails only if neither it nor its fallback is there. -/
theorem valueOr_eq_error_iff {value fallback : Option Text} {failure other : Failure} :
    valueOr value fallback failure = .error other ↔ value.or fallback = none ∧ failure = other := by
  unfold valueOr
  cases value.or fallback <;> simp

/-- There is no fallback exactly when there is no parameter `default`. -/
theorem fallback?_eq_none_iff {parameters : Parameters} :
    fallback? parameters = none ↔ parameters.get? "default".toList = none :=
  Option.map_eq_none_iff

end Builtin

namespace Obstacle

variable {obstacle : Obstacle}

/-- The label tells a failed callback from all other obstacles. -/
theorem label_eq_failed_iff :
    obstacle.label = "callback-failed".toList ↔ ∃ failure, obstacle = .failed failure := by
  constructor
  · intro same
    cases obstacle with
    | failed failure => exact ⟨failure, rfl⟩
    | invalidName | noCallback | invalidCallback => exact absurd same (by decide)
  · rintro ⟨failure, rfl⟩
    rfl

/-- No obstacle has the label of a success. -/
theorem label_ne_succeeded : obstacle.label ≠ "succeeded".toList := by
  cases obstacle with
  | failed failure => exact (by decide : "callback-failed".toList ≠ "succeeded".toList)
  | invalidName | noCallback | invalidCallback => decide

/-- Only a failed callback gives a detail, the message of its failure. -/
theorem detail?_eq_some_iff {message : Text} :
    obstacle.detail? = some message ↔
      ∃ failure, obstacle = .failed failure ∧ failure.message = message := by
  cases obstacle <;> simp [detail?]

end Obstacle

namespace Diagnostic

variable {diagnostic : Diagnostic}

/-- A diagnostic is labelled as failed exactly when a callback failed. -/
theorem label_eq_failed_iff :
    diagnostic.label = "callback-failed".toList ↔
      ∃ failure, diagnostic.obstacle = some (.failed failure) := by
  unfold label
  cases diagnostic.obstacle with
  | none => exact ⟨fun same => absurd same (by decide), fun ⟨_, failed⟩ => nomatch failed⟩
  | some obstacle => simp only [Obstacle.label_eq_failed_iff, Option.some.injEq]

/-- A diagnostic is labelled as a success exactly when there was no obstacle. -/
theorem label_eq_succeeded_iff :
    diagnostic.label = "succeeded".toList ↔ diagnostic.obstacle = none := by
  unfold label
  cases diagnostic.obstacle with
  | none => simp only
  | some obstacle => simp only [Obstacle.label_ne_succeeded, reduceCtorEq]

/-- A diagnostic has a detail exactly when a callback failed, namely the message of the failure. -/
theorem detail?_eq_some_iff {message : Text} :
    diagnostic.detail? = some message ↔
      ∃ failure, diagnostic.obstacle = some (.failed failure) ∧ failure.message = message := by
  unfold detail?
  cases diagnostic.obstacle with
  | none => simp
  | some obstacle => simp [Obstacle.detail?_eq_some_iff]

end Diagnostic

namespace Engine

variable (engine : Engine H σ) {request : Request} {token : Token} {site : Site H σ}

/-- A token that asks for something gets it, or else its default, or fails with the message. -/
theorem result_resolve_of_asks {value : Option Text} {message : Text}
    (asks : site.registry.Asks request token value message) :
    ∃ failure : Failure, failure.message = message ∧
      (engine.resolve token request site).result =
        match value.or (Builtin.fallback? token.parameters) with
        | some text => .ok text
        | none => .error (.failed failure) := by
  have spelled (value fallback : Option Text) (failure : Failure) :
      (Builtin.valueOr value fallback failure).mapError Obstacle.failed =
        match value.or fallback with
        | some text => .ok text
        | none => .error (.failed failure) := by
    unfold Builtin.valueOr
    cases value.or fallback <;> rfl
  cases asks with
  | ofAttribute named stands =>
    refine ⟨.attributeUnset token.attributeKey, rfl, ?_⟩
    rw [result_resolve, if_pos named, stands, ← Builtin.attributeKey_call token request, ← spelled]
    rfl
  | ofPath named stands =>
    refine ⟨.pathUnset, rfl, ?_⟩
    rw [result_resolve, if_pos named, stands, ← spelled]
    rfl

/-- In the place of a token that asks for something stands what it asks for, or else its default. -/
theorem replacement?_of_asks {value : Option Text} {message : Text}
    (asks : site.registry.Asks request token value message) :
    engine.replacement? request site token =
      value.or (Builtin.fallback? token.parameters) := by
  obtain ⟨failure, -, result⟩ := engine.result_resolve_of_asks asks
  rw [replacement?, result]
  cases value.or (Builtin.fallback? token.parameters) <;> rfl

/-- A callback that is called and fails without host code has asked for something. -/
theorem asks_of_failed (declared : site.registry.Declared) {definition : Definition H}
    {failure : Failure} (offered : site.registry.Offers token.name definition)
    (failed : (Invocation.reply engine.host ⟨definition, token.call request⟩ site).result =
      .error failure) :
    ∃ value, site.registry.Asks request token value failure.message := by
  obtain ⟨name, callback, description⟩ := definition
  obtain ⟨named, registered, sound⟩ := offered
  have stands : site.registry.callback? token.name = some callback := by
    rw [Registry.callback?, registered, Option.map_some]
  cases callback with
  | handler code => exact absurd rfl (declared _ _ stands code)
  | fixed text => cases failed
  | builtin reference =>
    obtain ⟨builtin, rfl⟩ := not_forall_not.mp sound
    simp only [Invocation.reply, Callback.invoke, Builtin.ofName?_name] at failed
    -- Of the built-in callbacks only the two that ask the request for something can fail.
    cases builtin with
    | context =>
      obtain ⟨-, rfl⟩ := Builtin.valueOr_eq_error_iff.mp failed
      rw [Builtin.attributeKey_call]
      exact ⟨_, .ofAttribute named stands⟩
    | path =>
      obtain ⟨-, rfl⟩ := Builtin.valueOr_eq_error_iff.mp failed
      exact ⟨_, .ofPath named stands⟩
    | join | upper | lower => cases failed

/-- A token fails with a message exactly when it asks for what is missing and has no default. -/
theorem detail?_eq_some_iff_fails (request : Request) (declared : site.registry.Declared)
    (occurrence : Occurrence) (message : Text) :
    ((engine.resolve occurrence.token request site).diagnostic occurrence).detail? =
        some message ↔
      site.registry.Fails request occurrence.token message := by
  have dispatched : engine.Dispatches request site occurrence _ _ :=
    dispatches_resolve occurrence site
  rw [Diagnostic.detail?_eq_some_iff]
  constructor
  · rintro ⟨failure, failed, rfl⟩
    obtain ⟨definition, offered, answer⟩ := (dispatched.failed failure).mp failed
    obtain ⟨value, asks⟩ := engine.asks_of_failed declared offered answer
    obtain ⟨expected, -, result⟩ := engine.result_resolve_of_asks asks
    rw [Resolution.diagnostic, Resolution.obstacle?, result] at failed
    cases found : value.or (Builtin.fallback? occurrence.token.parameters) with
    | some text => simp [found] at failed
    | none =>
      obtain ⟨rfl, undefaulted⟩ := Option.or_eq_none_iff.mp found
      exact ⟨asks, Builtin.fallback?_eq_none_iff.mp undefaulted⟩
  · rintro ⟨unset, undefaulted⟩
    obtain ⟨failure, spoken, result⟩ := engine.result_resolve_of_asks unset
    refine ⟨failure, ?_, spoken⟩
    rw [Resolution.diagnostic, Resolution.obstacle?, result,
      Builtin.fallback?_eq_none_iff.mpr undefaulted]
    rfl

/-- A token meets no obstacle exactly when a definition is offered for it and it does not fail. -/
theorem obstacle_eq_none_iff_offers (request : Request) (declared : site.registry.Declared)
    (occurrence : Occurrence) :
    ((engine.resolve occurrence.token request site).diagnostic occurrence).obstacle = none ↔
      (∃ definition, site.registry.Offers occurrence.name definition) ∧
        ∀ message, ¬ site.registry.Fails request occurrence.token message := by
  have dispatched : engine.Dispatches request site occurrence _ _ :=
    dispatches_resolve occurrence site
  have detail := engine.detail?_eq_some_iff_fails request declared occurrence
  constructor
  · intro free
    obtain ⟨definition, offered, -⟩ := dispatched.succeeded.mp free
    refine ⟨⟨definition, offered⟩, fun message fails => ?_⟩
    have said := (detail message).mpr fails
    simp [Diagnostic.detail?, free] at said
  · rintro ⟨⟨definition, offered⟩, unfailing⟩
    cases answer : (Invocation.reply engine.host
        ⟨definition, occurrence.token.call request⟩ site).result with
    | ok text => exact dispatched.succeeded.mpr ⟨definition, offered, text, answer⟩
    | error failure =>
      have hindered := (dispatched.failed failure).mpr ⟨definition, offered, answer⟩
      have said := Diagnostic.detail?_eq_some_iff.mpr ⟨failure, hindered, rfl⟩
      exact absurd ((detail _).mp said) (unfailing _)

/-- Without host code a token depends on what the request has and on its default. -/
theorem decides_resolve (declared : site.registry.Declared) (occurrence : Occurrence) :
    site.registry.Decides request occurrence.token
      ((engine.resolve occurrence.token request site).diagnostic occurrence)
      (engine.replacement? request site occurrence.token) := by
  have free := engine.obstacle_eq_none_iff_offers request declared occurrence
  have detail := engine.detail?_eq_some_iff_fails request declared occurrence
  have replaced := engine.succeeded_eq_isSome request site occurrence
  generalize (engine.resolve occurrence.token request site).diagnostic occurrence = diagnostic
    at free detail replaced
  have failed : diagnostic.label = "callback-failed".toList ↔
      ∃ message, site.registry.Fails request occurrence.token message := by
    simp only [← detail, Diagnostic.detail?_eq_some_iff, Diagnostic.label_eq_failed_iff]
    exact ⟨fun ⟨failure, failed⟩ => ⟨_, failure, failed, rfl⟩,
      fun ⟨_, failure, failed, _⟩ => ⟨failure, failed⟩⟩
  have unhindered : diagnostic.obstacle = none ↔
      (engine.replacement? request site occurrence.token).isSome := by
    rw [← replaced, Diagnostic.succeeded, Option.isNone_iff_eq_none]
  constructor
  · exact failed
  · exact detail
  · rw [Diagnostic.label_eq_succeeded_iff]
    exact free
  · rw [ne_eq, Diagnostic.label_eq_succeeded_iff, unhindered, Option.not_isSome_iff_eq_none]
  · intro value message asks
    rw [engine.replacement?_of_asks asks, Option.some_or]
  · intro value message asks default
    rw [engine.replacement?_of_asks asks, Option.none_or, Builtin.fallback?, default,
      Option.map_some]
  · intro defaulted fails
    obtain ⟨message, -, undefaulted⟩ := failed.mp fails
    exact defaulted undefaulted

/-- A pass without host code. A token is reported as failed exactly when its name is registered
for an attribute or for the path, the request does not have it and the token has no default; the
detail says what is missing. Every other token with a callback that can be called succeeds, and a
value that the request has is never replaced by the default. -/
theorem substitute_decided (engine : Engine H σ) (request : Request) (text : Text)
    (site : Site H σ) (declared : site.registry.Declared) :
    let pass := engine.substitute request text site
    ∃ replace : Token → Option Text,
      pass.text = (Page.ofText engine.delimiters text).filled engine.delimiters.toMarks
          (fun body => replace (Token.ofBody engine.delimiters.toMarks body)) ∧
        List.Forall₂ (fun occurrence diagnostic =>
            diagnostic.name = occurrence.name ∧ diagnostic.span = occurrence.span ∧
              site.registry.Decides request occurrence.token diagnostic
                (replace occurrence.token))
          (occurrences engine.delimiters text) pass.diagnostics := by
  intro pass
  refine ⟨engine.replacement? request site, engine.substitute_text_of_declared declared text, ?_⟩
  rw [show pass.diagnostics = _ from engine.substitute_diagnostics_of_declared declared text,
    List.forall₂_map_right_iff, List.forall₂_same]
  exact fun occurrence _ => ⟨rfl, rfl, engine.decides_resolve declared occurrence⟩

/-- A list names no attribute, so the first token asks for what stands under its key. The second
one asks for an attribute that is not set. -/
theorem substitute_decided_missing :
    let engine : Engine Empty Unit := ⟨.none, .standard⟩
    let text := ("\x7b\x7bask|a,b|key:lang\x7d\x7d \x7b\x7bask|gone\x7d\x7d " ++
      "\x7b\x7bhere|default:/\x7d\x7d").toList
    let registry : Registry Empty := Registry.empty.applyAll
      [.register ⟨"ask".toList, .builtin "context".toList, none⟩,
        .register ⟨"here".toList, .builtin "path".toList, none⟩]
    let request : Request := ⟨.frontend, none, .ofList [("lang".toList, "de".toList)]⟩
    let pass := engine.substitute request text ⟨registry, ()⟩
    pass.text = "de \x7b\x7bask|gone\x7d\x7d /".toList ∧
      pass.diagnostics.map Diagnostic.detail? =
        [none, some "request attribute \x27gone\x27 is not set".toList, none] ∧
      ∃ replace : Token → Option Text,
        List.Forall₂ (fun occurrence diagnostic =>
            registry.Decides request occurrence.token diagnostic (replace occurrence.token))
          (occurrences engine.delimiters text) pass.diagnostics := by
  intro engine text registry request pass
  obtain ⟨replace, -, decided⟩ := engine.substitute_decided request text ⟨registry, ()⟩
    fun _ _ _ code => nomatch code
  exact ⟨by decide +kernel, by decide +kernel, replace, decided.imp fun _ _ found => found.2.2⟩

end Engine
end PageTokens
