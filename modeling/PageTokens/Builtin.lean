import PageTokens.Parameter
import PageTokens.Request
import PageTokens.Text.Case

/-!
# Built-in callbacks

A configuration file cannot hold host code, so a token declared there expands
to a fixed text or to the result of one of five built-in callbacks. A callback
computes a text from a call: the name and the parameters of a token, and the
request.
-/

namespace PageTokens

/-- What a callback is given. -/
structure Call where
  name : Text
  parameters : Parameters
  request : Request
deriving DecidableEq

/-- The reason for which a callback gives no text. -/
inductive Failure
  | attributeUnset (key : Text)
  | pathUnset
  | unknownBuiltin (name : Text)
  | reported (message : Text)
deriving DecidableEq

namespace Failure

/-- The text of a failure. -/
def message : Failure → Text
  | attributeUnset key =>
    "request attribute ".toList ++ Text.inApostrophes key ++ " is not set".toList
  | pathUnset => "request has no path".toList
  | unknownBuiltin name => "unknown builtin ".toList ++ Text.inApostrophes name
  | reported message => message

end Failure

/-- A built-in callback. -/
inductive Builtin
  | context
  | path
  | join
  | upper
  | lower
deriving DecidableEq, Repr

namespace Builtin

/-- The built-in callbacks in the order in which they are listed. -/
def all : List Builtin := [context, path, join, upper, lower]

/-- The name of a built-in callback. -/
def name : Builtin → Text
  | context => "context".toList
  | path => "path".toList
  | join => "join".toList
  | upper => "upper".toList
  | lower => "lower".toList

/-- What a built-in callback gives, in one line. -/
def help : Builtin → Text
  | context => "Request attribute (first positional or key:, default:)".toList
  | path => "Request path (default:)".toList
  | join => "Positional values joined with sep: (default \", \")".toList
  | upper => "Positional values, uppercased".toList
  | lower => "Positional values, lowercased".toList

/-- The built-in callback with a given name. -/
def ofName? (name : Text) : Option Builtin :=
  all.find? fun builtin => builtin.name = name

/-- A built-in callback is found under its name. -/
theorem ofName?_name (builtin : Builtin) : ofName? builtin.name = some builtin := by
  cases builtin <;> decide

/-- Names of built-in callbacks are different, so each is found by its name. -/
theorem ofName?_eq_some_iff {name : Text} {builtin : Builtin} :
    ofName? name = some builtin ↔ builtin.name = name := by
  constructor
  · intro found
    unfold ofName? at found
    simpa using List.find?_some found
  · rintro rfl
    exact ofName?_name builtin

theorem ofName?_eq_none_iff {name : Text} :
    ofName? name = none ↔ ∀ builtin : Builtin, builtin.name ≠ name := by
  simp only [Option.eq_none_iff_forall_ne_some, ne_eq, ofName?_eq_some_iff]

/-- The text that stands in for a value the request does not have. -/
def fallback? (parameters : Parameters) : Option Text :=
  (parameters.get? "default".toList).map (Value.join ", ".toList)

/-- The attribute a call asks for: the first positional value, else the value
under `key`, else the name of the token. A list names no attribute. -/
def attributeKey (call : Call) : Text :=
  ((call.parameters.positional.head?.bind Value.single?).or
    ((call.parameters.get? "key".toList).bind Value.single?)).getD call.name

/-- The first of two texts that is there, or a failure. -/
def valueOr (value fallback : Option Text) (failure : Failure) : Except Failure Text :=
  match value.or fallback with
  | some text => .ok text
  | none => .error failure

/-- The items of the positional values with a separator between them. -/
def joined (separator : Text) (parameters : Parameters) : Text :=
  Text.join separator parameters.positionalItems

/-- The text a built-in callback gives for a call. -/
def run (call : Call) : Builtin → Except Failure Text
  | context =>
    valueOr (call.request.attribute? (attributeKey call)) (fallback? call.parameters)
      (.attributeUnset (attributeKey call))
  | path => valueOr call.request.path (fallback? call.parameters) .pathUnset
  | join =>
    let separator := ((call.parameters.get? "sep".toList).map (Value.join [])).getD ", ".toList
    .ok (joined separator call.parameters)
  | upper => .ok (Text.upper (joined " ".toList call.parameters))
  | lower => .ok (Text.lower (joined " ".toList call.parameters))

end Builtin
end PageTokens
