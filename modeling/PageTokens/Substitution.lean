import PageTokens.Host
import PageTokens.Occurrence

/-!
# Replacing the tokens of a text

A pass goes through the tokens of a text from left to right. A token is replaced
by what its callback gives; a token that cannot be replaced stays as it is, and
the pass goes on. What a callback gives is not looked at again. `Pass` holds the
new text together with a diagnostic for each token, the calls that were made,
what was reported, and the site as the calls left it.
-/

namespace PageTokens

/-- The reason for which a token stays in the text. -/
inductive Obstacle
  | invalidName
  | noCallback
  | invalidCallback
  | failed (failure : Failure)
deriving DecidableEq

namespace Obstacle

/-- The label of an obstacle in listings. -/
def label : Obstacle → Text
  | invalidName => "skipped-invalid-name".toList
  | noCallback => "skipped-no-callback".toList
  | invalidCallback => "skipped-invalid-callback".toList
  | failed _ => "callback-failed".toList

/-- The message of a failed callback. -/
def detail? : Obstacle → Option Text
  | failed failure => some failure.message
  | invalidName | noCallback | invalidCallback => none

/-- What is reported of a token that stays. -/
def event (name : Text) : Obstacle → Event
  | invalidName => .nameInvalid name
  | noCallback => .callbackMissing name
  | invalidCallback => .callbackNotInvocable name
  | failed failure => .callbackFailed name failure.message

end Obstacle

/-- What became of one token of the text. -/
structure Diagnostic where
  name : Text
  span : Span
  obstacle : Option Obstacle
deriving DecidableEq

namespace Diagnostic

/-- Whether the token was replaced. -/
def succeeded (diagnostic : Diagnostic) : Bool :=
  diagnostic.obstacle.isNone

/-- The label of what became of the token. -/
def label (diagnostic : Diagnostic) : Text :=
  match diagnostic.obstacle with
  | some obstacle => obstacle.label
  | none => "succeeded".toList

/-- The message of a failed callback. -/
def detail? (diagnostic : Diagnostic) : Option Text :=
  diagnostic.obstacle.bind Obstacle.detail?

end Diagnostic

/-- A call of the callback of a definition. -/
structure Invocation (H : Type) where
  definition : Definition H
  call : Call

/-- What comes of one token: its replacement or the obstacle, and what was done. -/
structure Resolution (H σ : Type) where
  result : Except Obstacle Text
  calls : List (Invocation H)
  events : List Event
  site : Site H σ

/-- What comes of a whole text. -/
structure Pass (H σ : Type) where
  text : Text
  diagnostics : List Diagnostic
  calls : List (Invocation H)
  events : List Event
  site : Site H σ

/-- What every pass has in common: the host code and the delimiters. -/
structure Engine (H σ : Type) where
  host : Host H σ
  delimiters : Delimiters

namespace Resolution

variable {H σ : Type}

/-- A token that stays without a call. -/
def refused (name : Text) (obstacle : Obstacle) (site : Site H σ) : Resolution H σ :=
  ⟨.error obstacle, [], [obstacle.event name], site⟩

/-- A token whose callback was called. -/
def answered (invocation : Invocation H) (reply : Reply H σ) : Resolution H σ :=
  match reply.result with
  | .ok text => ⟨.ok text, [invocation], reply.events, reply.site⟩
  | .error failure =>
    ⟨.error (.failed failure), [invocation],
      reply.events ++ [(Obstacle.failed failure).event invocation.call.name], reply.site⟩

/-- The obstacle, for a token that stays. -/
def obstacle? (resolution : Resolution H σ) : Option Obstacle :=
  match resolution.result with
  | .ok _ => none
  | .error obstacle => some obstacle

/-- The text in the place of a token: its replacement, or the text it had. -/
def textOr (literal : Text) (resolution : Resolution H σ) : Text :=
  match resolution.result with
  | .ok text => text
  | .error _ => literal

end Resolution

namespace Pass

variable {H σ : Type}

/-- A text that is left alone. -/
def untouched (text : Text) (site : Site H σ) : Pass H σ :=
  ⟨text, [], [], [], site⟩

/-- The tokens that were replaced. -/
def replaced (pass : Pass H σ) : Nat :=
  pass.diagnostics.countP Diagnostic.succeeded

/-- The diagnostics of the tokens that stay. -/
def skipped (pass : Pass H σ) : List Diagnostic :=
  pass.diagnostics.filter fun diagnostic => !diagnostic.succeeded

/-- Whether a token stays. -/
def hasFailures (pass : Pass H σ) : Bool :=
  !pass.skipped.isEmpty

/-- The event with which a pass ends. -/
def completion (pass : Pass H σ) : Event :=
  .passComplete pass.diagnostics.length pass.replaced

end Pass

namespace Engine

variable {H σ : Type}

/-- Resolves one token at the site of its moment. -/
def resolve (engine : Engine H σ) (token : Token) (request : Request) (site : Site H σ) :
    Resolution H σ :=
  if !isTokenName token.name then .refused token.name .invalidName site
  else match site.registry.lookup token.name with
    | none => .refused token.name .noCallback site
    | some definition =>
      if !definition.callbackValid then .refused token.name .invalidCallback site
      else
        let call : Call := ⟨token.name, token.parameters, request⟩
        .answered ⟨definition, call⟩ (definition.callback.invoke engine.host call site)

/-- Replaces the tokens of segments that begin at a byte position, and keeps the tail. -/
def fillSegments (engine : Engine H σ) (request : Request) (tail : Text) (offset : Nat) :
    List Segment → Site H σ → Pass H σ
  | [], site => .untouched tail site
  | segment :: rest, site =>
    let marks := engine.delimiters.toMarks
    let occurrence := segment.occurrence marks offset
    let resolution := engine.resolve occurrence.token request site
    let remainder := fillSegments engine request tail
      (offset + (segment.toText marks).byteLength) rest resolution.site
    { text := segment.literal ++ resolution.textOr (segment.token marks) ++ remainder.text
      diagnostics :=
        ⟨occurrence.name, occurrence.span, resolution.obstacle?⟩ :: remainder.diagnostics
      calls := resolution.calls ++ remainder.calls
      events := resolution.events ++ remainder.events
      site := remainder.site }

/-- Replaces the tokens of a page. -/
def fillPage (engine : Engine H σ) (request : Request) (page : Page) (site : Site H σ) :
    Pass H σ :=
  engine.fillSegments request page.tail 0 page.segments site

/-- Replaces the tokens of a text. A text in which no token can begin is left
alone without a report. -/
def substitute (engine : Engine H σ) (request : Request) (text : Text) (site : Site H σ) :
    Pass H σ :=
  if Text.contains engine.delimiters.start text then
    let pass := engine.fillPage request (Page.ofText engine.delimiters text) site
    { pass with events := pass.events ++ [pass.completion] }
  else .untouched text site

end Engine
end PageTokens
