import PageTokens.Callback
import PageTokens.Event

/-!
# The registry of tokens

A registry holds at most one definition per name. Strict registration refuses a
definition that cannot replace a token; lenient registration keeps it, so that
it is listed, and warns. `Change` is one change of a registry, the form in which
host code asks for changes while tokens are replaced.
-/

namespace PageTokens

/-- The reason for which a definition is refused. -/
inductive RegistrationError
  | invalidName (name : Text)
  | invalidCallback (name builtin : Text)
deriving DecidableEq

namespace RegistrationError

/-- The text of an error. -/
def message : RegistrationError → Text
  | invalidName name =>
    "invalid token name ".toList ++ Text.inApostrophes name ++
      " (expected letters, digits and underscores)".toList
  | invalidCallback name builtin =>
    "token ".toList ++ Text.inApostrophes name ++ " has an invalid callback: ".toList ++
      (Failure.unknownBuiltin builtin).message

end RegistrationError

namespace Definition

variable {H : Type}

/-- The first reason for which a definition is refused. -/
def problem? (definition : Definition H) : Option RegistrationError :=
  if !definition.nameValid then some (.invalidName definition.name)
  else match definition.callback with
    | .builtin builtin =>
      if (Builtin.ofName? builtin).isSome then none
      else some (.invalidCallback definition.name builtin)
    | .handler _ | .fixed _ => none

/-- A definition is refused exactly when its name or its callback is not valid. -/
theorem problem?_eq_none_iff {definition : Definition H} :
    definition.problem? = none ↔ definition.isValid = true := by
  unfold problem? isValid callbackValid Callback.isInvocable
  cases definition.nameValid <;> cases definition.callback <;> simp [Option.isSome_iff_ne_none]

end Definition

/-- The tokens that can be replaced, by their names. -/
structure Registry (H : Type) where
  definitions : Dictionary Text (Definition H)

namespace Registry

variable {H : Type}

/-- The registry without tokens. -/
def empty : Registry H := ⟨.empty⟩

/-- The definition of a name. -/
def lookup (registry : Registry H) (name : Text) : Option (Definition H) :=
  registry.definitions.get? name

/-- Whether a name is registered. -/
def contains (registry : Registry H) (name : Text) : Bool :=
  registry.definitions.contains name

/-- The number of registered names. -/
def size (registry : Registry H) : Nat :=
  registry.definitions.size

/-- The registered names in ascending order. -/
def names (registry : Registry H) : List Text :=
  registry.definitions.keys

/-- The definitions in ascending order of their names. -/
def list (registry : Registry H) : List (Definition H) :=
  registry.definitions.values

/-- The registry with a definition in the stead of an earlier one of its name. -/
def insert (registry : Registry H) (definition : Definition H) : Registry H :=
  ⟨registry.definitions.insert definition.name definition⟩

/-- What is reported of an insertion. -/
def insertEvent (registry : Registry H) (definition : Definition H) : Event :=
  if registry.contains definition.name then .tokenReplaced definition.name
  else .tokenRegistered definition.name

/-- The registry without a name. -/
def erase (registry : Registry H) (name : Text) : Registry H :=
  ⟨registry.definitions.erase name⟩

/-- The definition found under a name after an insertion. -/
theorem lookup_insert (registry : Registry H) (definition : Definition H) (name : Text) :
    (registry.insert definition).lookup name =
      if name = definition.name then some definition else registry.lookup name :=
  Dictionary.get?_insert registry.definitions definition.name name definition

/-- The definition found under a name after a removal. -/
theorem lookup_erase (registry : Registry H) (erased name : Text) :
    (registry.erase erased).lookup name = if name = erased then none else registry.lookup name :=
  Dictionary.get?_erase registry.definitions erased name

/-- A change of a registry. -/
inductive Change (H : Type)
  | register (definition : Definition H)
  | registerLenient (definition : Definition H)
  | unregister (name : Text)

namespace Change

/-- The definition a change puts into the registry. -/
def inserted? : Change H → Option (Definition H)
  | register definition => if definition.problem?.isNone then some definition else none
  | registerLenient definition => some definition
  | unregister _ => none

/-- The registry after a change. A refused definition changes nothing. -/
def apply (registry : Registry H) (change : Change H) : Registry H :=
  match change with
  | unregister name => registry.erase name
  | register _ | registerLenient _ =>
    match change.inserted? with
    | some definition => registry.insert definition
    | none => registry

/-- What is reported of a change. -/
def events (registry : Registry H) (change : Change H) : List Event :=
  (change.inserted?.map registry.insertEvent).toList

end Change

/-- The registry after several changes, one after the other. -/
def applyAll (registry : Registry H) (changes : List (Change H)) : Registry H :=
  changes.foldl Change.apply registry

/-- What is reported of several changes, one after the other. -/
def eventsOf (registry : Registry H) : List (Change H) → List Event
  | [] => []
  | change :: rest => change.events registry ++ eventsOf (change.apply registry) rest

/-- The warnings of a lenient registration. -/
def warnings (definition : Definition H) : List RegistrationError :=
  definition.problem?.toList

end Registry
end PageTokens
