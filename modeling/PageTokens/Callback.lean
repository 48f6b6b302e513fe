import PageTokens.Builtin
import PageTokens.Text.Quoted
import PageTokens.Token

/-!
# Callbacks and definitions

A token is defined by its name and a callback. A callback is host code, a fixed
text or a reference to a built-in callback by name. The reference may name
nothing; such a definition can be kept and listed but not called.
-/

namespace PageTokens

/-- What a token expands to. `H` is the type of references to host code. -/
inductive Callback (H : Type)
  | handler (code : H)
  | fixed (text : Text)
  | builtin (name : Text)
deriving DecidableEq

/-- The kind of a callback. -/
inductive CallbackKind
  | handler
  | fixed
  | builtin
deriving DecidableEq, Repr

namespace CallbackKind

/-- The name of a kind. -/
def name : CallbackKind → Text
  | handler => "handler".toList
  | fixed => "static".toList
  | builtin => "builtin".toList

end CallbackKind

namespace Callback

variable {H : Type}

/-- The kind of a callback. -/
def kind : Callback H → CallbackKind
  | handler _ => .handler
  | fixed _ => .fixed
  | builtin _ => .builtin

/-- The fixed text, or the name of the built-in callback. -/
def target? : Callback H → Option Text
  | handler _ => none
  | fixed text => some text
  | builtin name => some name

/-- Whether a callback can be called: only a reference to no built-in callback cannot. -/
def isInvocable : Callback H → Bool
  | handler _ | fixed _ => true
  | builtin name => (Builtin.ofName? name).isSome

/-- A callback as it is shown. Host code shows nothing of itself. -/
def shown : Callback H → Text
  | handler _ => "Handler(..)".toList
  | fixed text => "Static(".toList ++ Text.quoted text ++ ")".toList
  | builtin name => "Builtin(".toList ++ Text.quoted name ++ ")".toList

end Callback

/-- A token's name, its callback and what it is for. -/
structure Definition (H : Type) where
  name : Text
  callback : Callback H
  description : Option Text
deriving DecidableEq

namespace Definition

variable {H : Type}

/-- Whether the name is the name of a token. -/
def nameValid (definition : Definition H) : Bool :=
  isTokenName definition.name

/-- Whether the callback can be called. -/
def callbackValid (definition : Definition H) : Bool :=
  definition.callback.isInvocable

/-- Whether the definition can replace a token. -/
def isValid (definition : Definition H) : Bool :=
  definition.nameValid && definition.callbackValid

end Definition
end PageTokens
