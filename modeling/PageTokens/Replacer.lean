import PageTokens.Configuration.Basic
import PageTokens.RenderHook

/-!
# The replacer of a site

A site keeps one replacer for its lifetime. It replaces tokens on request and
serves as the render hook. When the configured delimiters cannot be used, the
replacer is closed: it leaves every text as it is, and only the list of tokens
goes on working.
-/

namespace PageTokens

/-- What a site uses to replace tokens. Without a hook it is closed. -/
structure Replacer (H σ : Type) where
  hook : Option (RenderHook H σ)
  problems : List Problem
  warnings : List RegistrationError

/-- A replacer with the registry it was set up over and what was reported meanwhile. -/
structure Setup (H σ : Type) where
  replacer : Replacer H σ
  registry : Registry H
  events : List Event

namespace Replacer

variable {H σ : Type}

/-- The replacer with sound delimiters and a policy. -/
def ofDelimiters (host : Host H σ) (delimiters : Delimiters) (policy : HookPolicy) :
    Replacer H σ :=
  ⟨some ⟨policy, ⟨host, delimiters⟩⟩, [], []⟩

/-- Whether the replacer can replace tokens. -/
def isOperational (replacer : Replacer H σ) : Bool :=
  replacer.hook.isSome

/-- The policy in force. A closed replacer has automatic replacement switched off. -/
def policy (replacer : Replacer H σ) : HookPolicy :=
  match replacer.hook with
  | some hook => hook.policy
  | none => .disabled

/-- The delimiters in force. -/
def delimiters? (replacer : Replacer H σ) : Option Delimiters :=
  replacer.hook.map fun hook => hook.engine.delimiters

/-- Replaces the tokens of a text, whatever the policy says. -/
def substitute (replacer : Replacer H σ) (request : Request) (text : Text) (site : Site H σ) :
    Pass H σ :=
  match replacer.hook with
  | some hook => hook.engine.substitute request text site
  | none => .untouched text site

/-- The text that replacing the tokens of a text gives, for a caller without use for a report. -/
def replaceTokens (replacer : Replacer H σ) (request : Request) (text : Text)
    (site : Site H σ) : Text :=
  (replacer.substitute request text site).text

/-- Replaces the tokens of the page of a request, or leaves the page alone. -/
def afterRender (replacer : Replacer H σ) (request : Request) (page : Text) (site : Site H σ) :
    Pass H σ :=
  match replacer.hook with
  | some hook => hook.afterRender request page site
  | none => .untouched page site

/-- A token written with the delimiters in force. -/
def example? (replacer : Replacer H σ) (token : Token) : Option Text :=
  replacer.delimiters?.map fun delimiters => token.written delimiters.toMarks

/-- The event that reports a replacer over a registry. -/
def readyEvent (replacer : Replacer H σ) (registry : Registry H) : Event :=
  .replacerReady registry.size replacer.isOperational
    (replacer.isOperational && replacer.policy.automatic)

/-- The replacer that a configuration asks for. The tokens of the configuration
are registered leniently, over those of the host. -/
def ofConfiguration (host : Host H σ) (configuration : Configuration) (registry : Registry H) :
    Setup H σ :=
  let definitions : List (Definition H) := configuration.definitions
  let changes := definitions.map Registry.Change.registerLenient
  let warnings := definitions.flatMap Registry.warnings
  let filled := registry.applyAll changes
  let built := Delimiters.ofMarks configuration.marks
  let replacer : Replacer H σ :=
    { hook := built.toOption.map fun delimiters => ⟨configuration.policy, ⟨host, delimiters⟩⟩
      problems := configuration.problems
      warnings := warnings }
  let refusal := match built with
    | .ok _ => []
    | .error error => [Event.delimitersRefused error.message]
  { replacer := replacer
    registry := filled
    events := registry.eventsOf changes ++
      warnings.map (fun warning => .registrationWarning warning.message) ++ refusal ++
      [replacer.readyEvent filled] }

end Replacer
end PageTokens
