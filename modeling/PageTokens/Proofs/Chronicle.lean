import PageTokens.Proofs.Failures
import PageTokens.Proofs.Leniency

/-!
# The events of a pass

What a pass reports comes from two parts of the program: from the pass itself,
and from the registry when host code changes it in mid-pass. `events_resolve`
says what is reported while one token is resolved, and by induction over the
tokens `filter_events_resolutions` says it of all of them.

`substitute_chronicled` states that the log of a pass and its diagnostics tell
the same: one event for each token that stays, in their order, and a last one
that counts the tokens. The warnings are those of the callbacks that failed.
-/

namespace PageTokens

variable {H σ : Type}

namespace Event

/-- Whether an event comes from the part of the program that replaces tokens. -/
def isOfPass (event : Event) : Bool :=
  event.source = "cacheable_tokens::engine".toList

/-- The events of a pass are those that the engine emits. -/
theorem isOfPass_iff {event : Event} :
    event.isOfPass = true ↔ event.source = "cacheable_tokens::engine".toList :=
  decide_eq_true_iff

/-- Whether an event is a warning. -/
def isWarning (event : Event) : Bool :=
  event.level = .warn

theorem isWarning_iff {event : Event} : event.isWarning = true ↔ event.level = .warn :=
  decide_eq_true_iff

/-- An event of a pass as the log shows it: how important it is, its message, and the values that
come with it. -/
structure Reads (event : Event) (importance : Level) (wording : Text)
    (values : List (Text × Text)) : Prop where
  own : event.isOfPass = true
  level : event.level = importance
  message : event.message = wording
  fields : event.fields = values

end Event

namespace Diagnostic

/-- What an event tells of a token that stays: its name, at the level and with the message of the
reason for which it stays, and what the callback said if it failed. -/
def Tells (diagnostic : Diagnostic) (event : Event) : Prop :=
  let token := ("token".toList, diagnostic.name)
  match diagnostic.obstacle with
  | none => False
  | some .invalidName => event.Reads .debug "skipping token with invalid name".toList [token]
  | some .noCallback => event.Reads .debug "no callback registered".toList [token]
  | some .invalidCallback => event.Reads .debug "callback is not invocable".toList [token]
  | some (.failed failure) =>
    event.Reads .warn "token callback failed".toList [token, ("error".toList, failure.message)]

/-- Whether the callback of the token failed. -/
def failed (diagnostic : Diagnostic) : Bool :=
  diagnostic.label = "callback-failed".toList

/-- The event of a token that stays. -/
def event? (diagnostic : Diagnostic) : Option Event :=
  diagnostic.obstacle.map (Obstacle.event diagnostic.name)

variable {diagnostic : Diagnostic} {event : Event}

/-- The event of a diagnostic tells what the diagnostic reports. -/
theorem tells_of_event? (found : diagnostic.event? = some event) : diagnostic.Tells event := by
  obtain ⟨obstacle, stays, rfl⟩ := Option.map_eq_some_iff.mp found
  unfold Tells
  rw [stays]
  cases obstacle <;> exact ⟨Event.isOfPass_iff.mpr rfl, rfl, rfl, rfl⟩

/-- The event of a diagnostic belongs to the pass. -/
theorem isOfPass_of_event? (found : diagnostic.event? = some event) : event.isOfPass = true := by
  obtain ⟨obstacle, -, rfl⟩ := Option.map_eq_some_iff.mp found
  cases obstacle <;> exact Event.isOfPass_iff.mpr rfl

/-- Only a success has no event. -/
theorem event?_eq_none_iff : diagnostic.event? = none ↔ diagnostic.succeeded = true := by
  rw [event?, Option.map_eq_none_iff, succeeded, Option.isNone_iff_eq_none]

/-- A diagnostic reports a failure when a callback failed. -/
theorem failed_iff :
    diagnostic.failed = true ↔ ∃ failure, diagnostic.obstacle = some (.failed failure) := by
  rw [failed, decide_eq_true_iff, label_eq_failed_iff]

/-- Only a failed callback is warned of. -/
theorem isWarning_of_event? (found : diagnostic.event? = some event) :
    event.isWarning = diagnostic.failed := by
  obtain ⟨obstacle, stays, rfl⟩ := Option.map_eq_some_iff.mp found
  rw [Bool.eq_iff_iff, failed_iff, Event.isWarning_iff, stays]
  cases obstacle <;> simp [Obstacle.event, Event.level]

/-- Diagnostics are told of one by one by the events that are kept, if an event is kept exactly when
its diagnostic is. -/
theorem forall₂_tells_filter {keep : Diagnostic → Bool} {select : Event → Bool}
    (agree : ∀ diagnostic event, diagnostic.event? = some event → select event = keep diagnostic)
    (silent : ∀ diagnostic, diagnostic.event? = none → keep diagnostic = false)
    (diagnostics : List Diagnostic) :
    List.Forall₂ Tells (diagnostics.filter keep)
      ((diagnostics.filterMap event?).filter select) := by
  induction diagnostics with
  | nil => exact .nil
  | cons first rest inductionHypothesis =>
    cases found : first.event? with
    | none =>
      have left : ¬ keep first = true := by simp [silent first found]
      rwa [List.filterMap_cons_none found, List.filter_cons_of_neg left]
    | some event =>
      rw [List.filterMap_cons_some found, List.filter_cons, List.filter_cons,
        agree first event found]
      split
      · exact .cons (tells_of_event? found) inductionHypothesis
      · exact inductionHypothesis

/-- The tokens that stay are told of one by one. -/
theorem forall₂_tells (diagnostics : List Diagnostic) :
    List.Forall₂ Tells (diagnostics.filter fun diagnostic => !diagnostic.succeeded)
      (diagnostics.filterMap event?) := by
  rw [← List.filter_true (diagnostics.filterMap event?)]
  refine forall₂_tells_filter (fun diagnostic event found => ?_) (fun diagnostic none => ?_) _
  · have stays : diagnostic.succeeded ≠ true := by simp [← event?_eq_none_iff, found]
    simp [stays]
  · simp [event?_eq_none_iff.mp none]

/-- The failed callbacks are warned of one by one. -/
theorem forall₂_tells_warnings (diagnostics : List Diagnostic) :
    List.Forall₂ Tells (diagnostics.filter failed)
      ((diagnostics.filterMap event?).filter Event.isWarning) := by
  refine forall₂_tells_filter (fun _ _ => isWarning_of_event?) (fun diagnostic none => ?_) _
  have replaced : diagnostic.obstacle = .none := Option.map_eq_none_iff.mp none
  simp [← Bool.not_eq_true, failed_iff, replaced]

end Diagnostic

namespace Registry

/-- What is reported of changes of the registry is no event of a pass and no warning. -/
theorem quiet_of_mem_eventsOf {registry : Registry H} {changes : List (Change H)} {event : Event}
    (reported : event ∈ registry.eventsOf changes) :
    event.isOfPass = false ∧ event.level = .debug := by
  induction changes generalizing registry with
  | nil => contradiction
  | cons change rest inductionHypothesis =>
    rcases List.mem_append.mp reported with here | behind
    · obtain ⟨definition, -, rfl⟩ := Option.map_eq_some_iff.mp (Option.mem_toList.mp here)
      have apart : "cacheable_tokens::registry".toList ≠ "cacheable_tokens::engine".toList := by
        decide
      unfold insertEvent
      split <;> exact ⟨decide_eq_false apart, rfl⟩
    · exact inductionHypothesis behind

/-- Changes give their events one list after the other, each at the registry that it finds. -/
theorem eventsOf_append (registry : Registry H) (first second : List (Change H)) :
    registry.eventsOf (first ++ second) =
      registry.eventsOf first ++ (registry.applyAll first).eventsOf second := by
  induction first generalizing registry with
  | nil => rfl
  | cons change rest inductionHypothesis =>
    rw [List.cons_append, eventsOf, inductionHypothesis, eventsOf, List.append_assoc]
    rfl

end Registry

namespace Callback

/-- During a call only the changes that the host makes give events. -/
theorem events_invoke (host : Host H σ) (callback : Callback H) (call : Call) (site : Site H σ) :
    (callback.invoke host call site).events =
      site.registry.eventsOf (callback.changes host call site) := by
  cases callback <;> rfl

end Callback

namespace Engine

variable (engine : Engine H σ) (request : Request)

/-- While a token is resolved the changes of the registry are reported that its call asks for, and
then the reason for which the token stays, if it stays. -/
theorem events_resolve (occurrence : Occurrence) (site : Site H σ) :
    let resolution := engine.resolve occurrence.token request site
    resolution.events =
      site.registry.eventsOf (Site.changesOf engine.host resolution.calls site) ++
        (resolution.diagnostic occurrence).event?.toList := by
  intro resolution
  have resolves := engine.resolves_resolve request occurrence.token site
  change engine.Resolves request occurrence.token site resolution at resolves
  generalize resolution = resolved at resolves
  cases resolves with
  | unnamed refused => rfl
  | unregistered named absent => rfl
  | dangling definition named registered dangling => rfl
  | called definition offered =>
    have told := Callback.events_invoke engine.host definition.callback
      (occurrence.token.call request) site
    rw [calls_answered, Site.changesOf, Site.changesOf, List.append_nil, ← told,
      Diagnostic.event?, Resolution.diagnostic, obstacle?_answered]
    unfold Resolution.answered Invocation.reply
    cases (definition.callback.invoke engine.host (occurrence.token.call request) site).result with
    | ok text => simp
    | error failure => rfl

/-- The events of a pass among those of occurrences are the events of their diagnostics, and the
others are the events of the changes of the registry that their calls ask for. -/
theorem filter_events_resolutions (found : List Occurrence) (site : Site H σ) :
    let resolved := engine.resolutions request found site
    let events := resolved.flatMap Resolution.events
    events.filter Event.isOfPass =
        (List.zipWith Resolution.diagnostic found resolved).filterMap Diagnostic.event? ∧
      (events.filter fun event => !event.isOfPass) =
        site.registry.eventsOf
          (Site.changesOf engine.host (resolved.flatMap Resolution.calls) site) := by
  induction found generalizing site with
  | nil => exact ⟨rfl, rfl⟩
  | cons occurrence rest inductionHypothesis =>
    let resolution := engine.resolve occurrence.token request site
    let changes := Site.changesOf engine.host resolution.calls site
    obtain ⟨own, others⟩ := inductionHypothesis resolution.site
    have events : resolution.events = site.registry.eventsOf changes ++
        (resolution.diagnostic occurrence).event?.toList :=
      engine.events_resolve request occurrence site
    have quiet (event : Event) (reported : event ∈ site.registry.eventsOf changes) :=
      (Registry.quiet_of_mem_eventsOf reported).1
    have told (event : Event)
        (reported : event ∈ (resolution.diagnostic occurrence).event?.toList) :=
      Diagnostic.isOfPass_of_event? (Option.mem_toList.mp reported)
    have leaves : resolution.site = site.after engine.host resolution.calls :=
      site_resolve occurrence.token site
    simp only [resolutions, List.flatMap_cons, List.zipWith_cons_cons]
    constructor
    · have here : resolution.events.filter Event.isOfPass =
          (resolution.diagnostic occurrence).event?.toList := by
        rw [events, List.filter_append, List.filter_eq_nil_iff.mpr (by simpa using quiet),
          List.filter_eq_self.mpr told, List.nil_append]
      rw [List.filter_append, own, here, List.filterMap_eq_flatMap_toList,
        List.filterMap_eq_flatMap_toList, List.flatMap_cons]
    · have here : (resolution.events.filter fun event => !event.isOfPass) =
          site.registry.eventsOf changes := by
        rw [events, List.filter_append, List.filter_eq_self.mpr (by simpa using quiet),
          List.filter_eq_nil_iff.mpr (by simpa using told), List.append_nil]
      rw [List.filter_append, others, here, Site.changesOf_append, Registry.eventsOf_append,
        ← Site.registry_after, ← leaves]

/-- A pass reports what is reported of its tokens, and then that it is complete. Of a text without
a start delimiter it reports nothing. -/
theorem substitute_events (text : Text) (site : Site H σ) :
    let pass := engine.substitute request text site
    pass.events =
      (engine.resolutions request (occurrences engine.delimiters text) site).flatMap
          Resolution.events ++
        if Text.contains engine.delimiters.start text then [pass.completion] else [] := by
  intro pass
  simp only [pass, substitute]
  split
  · rw [fillPage, fillSegments_eq]
    rfl
  · next absent =>
    rw [Text.contains_iff_infix] at absent
    rw [occurrences, Page.ofText_of_unclosed (.inl absent)]
    rfl

/-- Nothing is reported of a text in which no token can begin. -/
theorem substitute_events_of_absent {text : Text} (absent : ¬ engine.delimiters.start <:+: text)
    (site : Site H σ) : (engine.substitute request text site).events = [] := by
  rw [substitute, if_neg (mt Text.contains_iff_infix.mp absent)]
  rfl

/-- Only the events of the pass itself are warnings. -/
theorem filter_isWarning {events : List Event}
    (quiet : ∀ event ∈ events.filter fun event => !event.isOfPass, event.level = .debug) :
    events.filter Event.isWarning = (events.filter Event.isOfPass).filter Event.isWarning := by
  rw [List.filter_filter]
  refine List.filter_congr fun event reported => ?_
  cases own : event.isOfPass with
  | true => rw [Bool.and_true]
  | false =>
    have level := quiet event (List.mem_filter.mpr ⟨reported, by rw [own]; rfl⟩)
    rw [Event.isWarning, level]
    rfl

/-- Nothing is reported of a text in which the start delimiter does not stand. Of every other text
a pass reports each token that stays, in their order, with the name and the reason, and at the end
the number of tokens and the number of those that were replaced. Its warnings are those of the
callbacks that failed, one for each and in their order. Whatever else is reported in mid-pass
are the changes of the registry that the calls asked for. -/
theorem substitute_chronicled (text : Text) (site : Site H σ) :
    let pass := engine.substitute request text site
    (pass.events = [] ↔ ¬ engine.delimiters.start <:+: text) ∧
      (engine.delimiters.start <:+: text → ∃ told completion, pass.events = told ++ [completion] ∧
        List.Forall₂ Diagnostic.Tells pass.skipped (told.filter Event.isOfPass) ∧
        completion.Reads .debug "substitution pass complete".toList
          [("tokens".toList, Text.ofNat pass.diagnostics.length),
            ("replaced".toList, Text.ofNat pass.replaced)]) ∧
      List.Forall₂ Diagnostic.Tells (pass.diagnostics.filter Diagnostic.failed)
        (pass.events.filter Event.isWarning) ∧
      (pass.events.filter fun event => !event.isOfPass) =
        site.registry.eventsOf (Site.changesOf engine.host pass.calls site) := by
  intro pass
  let found := occurrences engine.delimiters text
  let told := (engine.resolutions request found site).flatMap Resolution.events
  obtain ⟨own, others⟩ := engine.filter_events_resolutions request found site
  rw [← engine.substitute_diagnostics request text site] at own
  rw [← engine.substitute_invocations request text site] at others
  have events := engine.substitute_events request text site
  have completes : pass.completion.Reads .debug "substitution pass complete".toList
      [("tokens".toList, Text.ofNat pass.diagnostics.length),
        ("replaced".toList, Text.ofNat pass.replaced)] :=
    ⟨Event.isOfPass_iff.mpr rfl, rfl, rfl, rfl⟩
  -- the event at the end is one of the pass and no warning
  have filtered (keep : Event → Bool) (without : keep pass.completion = false) :
      pass.events.filter keep = told.filter keep := by
    rw [events, List.filter_append]
    split
    · rw [List.filter_cons_of_neg (by rw [without]; decide), List.filter_nil, List.append_nil]
    · rw [List.filter_nil, List.append_nil]
  have quiet (event : Event) (reported : event ∈ told.filter fun event => !event.isOfPass) :
      event.level = .debug := by
    rw [others] at reported
    exact (Registry.quiet_of_mem_eventsOf reported).2
  have ends (stands : engine.delimiters.start <:+: text) :
      pass.events = told ++ [pass.completion] := by
    rw [events, if_pos (Text.contains_iff_infix.mpr stands)]
  refine ⟨⟨?_, fun absent => engine.substitute_events_of_absent request absent site⟩,
    fun stands => ⟨told, pass.completion, ends stands, ?_, completes⟩, ?_, ?_⟩
  · intro silent stands
    rw [ends stands] at silent
    exact List.append_ne_nil_of_right_ne_nil told (List.cons_ne_nil _ _) silent
  · rw [own]
    exact Diagnostic.forall₂_tells pass.diagnostics
  · rw [filtered _ rfl, filter_isWarning quiet, own]
    exact Diagnostic.forall₂_tells_warnings pass.diagnostics
  · rw [filtered _ (by rw [completes.own]; rfl)]
    exact others

/-- A start delimiter without an end delimiter is reported as a text without tokens. -/
example : (substitute ⟨Host.none, .standard⟩ ⟨.frontend, none, .empty⟩ "\x7b\x7bsite".toList
    ⟨.empty, ()⟩).events = [.passComplete 0 0] := by
  decide +kernel

end Engine
end PageTokens
