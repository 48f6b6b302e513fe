import PageTokens.Text.Quoted

/-!
# Events

What happens while tokens are registered and replaced is reported as events.
`Event` names the causes; level, message and fields of an event follow from its
cause.
-/

namespace PageTokens

/-- How important an event is, the most important first. -/
inductive Level
  | error
  | warn
  | info
  | debug
  | trace
deriving DecidableEq, Repr

namespace Level

/-- The name of a level. -/
def name : Level → Text
  | error => "ERROR".toList
  | warn => "WARN".toList
  | info => "INFO".toList
  | debug => "DEBUG".toList
  | trace => "TRACE".toList

/-- The place of a level, counted from the most important one. -/
def rank : Level → Nat
  | error => 1
  | warn => 2
  | info => 3
  | debug => 4
  | trace => 5

end Level

/-- Something that happened. -/
inductive Event
  | tokenRegistered (token : Text)
  | tokenReplaced (token : Text)
  | nameInvalid (token : Text)
  | callbackMissing (token : Text)
  | callbackNotInvocable (token : Text)
  | callbackFailed (token : Text) (failure : Text)
  | passComplete (tokens replaced : Nat)
  | hookSkipped (automatic admin : Bool)
  | hookApplied (path : Option Text) (bytes : Nat)
  | configurationAbsent
  | configurationLoading (path : Text)
  | configurationProblem (problem : Text)
  | registrationWarning (warning : Text)
  | delimitersRefused (error : Text)
  | replacerReady (tokens : Nat) (enabled automatic : Bool)
deriving DecidableEq

namespace Event

/-- How important an event is. -/
def level : Event → Level
  | tokenRegistered _ | tokenReplaced _ | nameInvalid _ | callbackMissing _
  | callbackNotInvocable _ | passComplete _ _ | hookApplied _ _ | configurationAbsent
  | configurationLoading _ => .debug
  | callbackFailed _ _ | configurationProblem _ | registrationWarning _
  | delimitersRefused _ => .warn
  | hookSkipped _ _ => .trace
  | replacerReady _ _ _ => .info

/-- The part of the program that an event comes from, as the log knows it. -/
def source : Event → Text
  | tokenRegistered _ | tokenReplaced _ => "cacheable_tokens::registry".toList
  | nameInvalid _ | callbackMissing _ | callbackNotInvocable _ | callbackFailed _ _
  | passComplete _ _ => "cacheable_tokens::engine".toList
  | hookSkipped _ _ | hookApplied _ _ => "cacheable_tokens::hook".toList
  | configurationAbsent | configurationLoading _ | configurationProblem _ =>
    "cacheable_tokens::config::loader".toList
  | registrationWarning _ | delimitersRefused _ | replacerReady _ _ _ =>
    "cacheable_tokens::replacements".toList

/-- The message of an event. -/
def message : Event → Text
  | tokenRegistered _ => "registered token".toList
  | tokenReplaced _ => "replaced existing token definition".toList
  | nameInvalid _ => "skipping token with invalid name".toList
  | callbackMissing _ => "no callback registered".toList
  | callbackNotInvocable _ => "callback is not invocable".toList
  | callbackFailed _ _ => "token callback failed".toList
  | passComplete _ _ => "substitution pass complete".toList
  | hookSkipped _ _ => "render hook skipped".toList
  | hookApplied _ _ => "replacing tokens in rendered output".toList
  | configurationAbsent => "no ctr.toml found, using defaults".toList
  | configurationLoading _ => "loading config".toList
  | configurationProblem problem => problem
  | registrationWarning warning => warning
  | delimitersRefused _ => "invalid delimiter configuration, token replacement disabled".toList
  | replacerReady _ _ _ => "token replacements initialised".toList

/-- The named values that come with an event, in their order. -/
def fields : Event → List (Text × Text)
  | tokenRegistered token | tokenReplaced token | nameInvalid token | callbackMissing token
  | callbackNotInvocable token => [("token".toList, token)]
  | callbackFailed token failure => [("token".toList, token), ("error".toList, failure)]
  | passComplete tokens replaced =>
    [("tokens".toList, Text.ofNat tokens), ("replaced".toList, Text.ofNat replaced)]
  | hookSkipped automatic admin =>
    [("automatic".toList, Text.ofBool automatic), ("admin".toList, Text.ofBool admin)]
  | hookApplied path bytes =>
    [("path".toList, Text.quotedOption path), ("bytes".toList, Text.ofNat bytes)]
  | configurationAbsent | configurationProblem _ | registrationWarning _ => []
  | configurationLoading path => [("path".toList, path)]
  | delimitersRefused error => [("error".toList, error)]
  | replacerReady tokens enabled automatic =>
    [("tokens".toList, Text.ofNat tokens), ("enabled".toList, Text.ofBool enabled),
      ("automatic".toList, Text.ofBool automatic)]

/-- The names of all that comes with an event, its message among them. -/
def fieldNames (event : Event) : List Text :=
  "message".toList :: event.fields.map Prod.fst

/-- A character of a message as it is written to the log. Characters that a
terminal takes for commands are written as escapes. -/
def logged (char : Char) : Text :=
  let code := char.toNat
  if code = 0x7 ∨ code = 0x8 ∨ code = 0xc then "\\x0".toList ++ Text.hexadecimal code
  else if code = 0x1b ∨ code = 0x7f then "\\x".toList ++ Text.hexadecimal code
  else if 0x80 ≤ code ∧ code ≤ 0x9f then
    "\\u\x7b".toList ++ Text.hexadecimal code ++ "\x7d".toList
  else [char]

/-- An event as a line of the log. -/
def logLine (event : Event) : Text :=
  event.level.name ++ " ".toList ++ event.message.flatMap logged ++
    event.fields.flatMap fun (name, value) => " ".toList ++ name ++ "=".toList ++ value

end Event
end PageTokens
