import PageTokens.Delimiters
import PageTokens.HookPolicy
import PageTokens.Registry

/-!
# Configurations

A configuration holds the policy of automatic replacement, five delimiters that
nobody has looked at yet, and tables that declare tokens. `problems` lists what
is wrong with it. A problem is an error when the configuration cannot be used
at all, and a warning when only a part of it goes unused.
-/

namespace PageTokens

/-- How bad a problem is. -/
inductive Severity
  | error
  | warn
deriving DecidableEq, Repr

namespace Severity

/-- The name of a severity. -/
def name : Severity → Text
  | error => "error".toList
  | warn => "warn".toList

/-- The severity of a problem about which nothing is said. -/
def standard : Severity := warn

/-- Reads a severity by its name. -/
def reader : Reader Severity :=
  .choice name [error, warn]

end Severity

/-- A table that declares a token. It should set either a fixed text or a built-in callback. -/
structure TokenTable where
  fixed : Option Text
  builtin : Option Text
  description : Option Text
deriving DecidableEq

namespace TokenTable

/-- The callback of a table that sets exactly one. -/
def callback? {H : Type} (table : TokenTable) : Option (Callback H) :=
  match table.fixed, table.builtin with
  | some text, none => some (.fixed text)
  | none, some name => some (.builtin name)
  | none, none | some _, some _ => none

end TokenTable

/-- Something that is wrong with a configuration. -/
inductive Problem
  | delimiter (error : DelimiterError)
  | tokenName (token : Text)
  | noCallback (token : Text)
  | twoCallbacks (token : Text)
  | unknownBuiltin (token builtin : Text)
deriving DecidableEq

namespace Problem

/-- The field a problem is about. -/
def field : Problem → Text
  | delimiter error => "delimiters.".toList ++ error.role.name
  | tokenName token | noCallback token | twoCallbacks token => "tokens.".toList ++ token
  | unknownBuiltin token _ => "tokens.".toList ++ token ++ ".builtin".toList

/-- The text of a problem. -/
def message : Problem → Text
  | delimiter error => error.message
  | tokenName _ => "name must contain only letters, digits and underscores".toList
  | noCallback _ => "must set either \x27static\x27 or \x27builtin\x27".toList
  | twoCallbacks _ => "cannot set both \x27static\x27 and \x27builtin\x27".toList
  | unknownBuiltin _ builtin =>
    (Failure.unknownBuiltin builtin).message ++ " (available: ".toList ++
      Text.join ", ".toList (Builtin.all.map Builtin.name) ++ ")".toList

/-- How bad a problem is. Only a table without exactly one callback is an error. -/
def severity : Problem → Severity
  | noCallback _ | twoCallbacks _ => .error
  | delimiter _ | tokenName _ | unknownBuiltin _ _ => .warn

/-- A problem with its field, as it is shown. -/
def shown (problem : Problem) : Text :=
  "ctr.toml: ".toList ++ Text.inApostrophes problem.field ++ " ".toList ++ problem.message

end Problem

namespace TokenTable

/-- What is wrong with the name of a table. -/
def nameProblem? (name : Text) : Option Problem :=
  if isTokenName name then none else some (.tokenName name)

/-- What is wrong with the callbacks of a table. -/
def callbackProblem? (name : Text) (table : TokenTable) : Option Problem :=
  match table.fixed, table.builtin with
  | none, none => some (.noCallback name)
  | some _, some _ => some (.twoCallbacks name)
  | some _, none => none
  | none, some builtin =>
    if (Builtin.ofName? builtin).isSome then none else some (.unknownBuiltin name builtin)

/-- Everything that is wrong with a table. -/
def problems (name : Text) (table : TokenTable) : List Problem :=
  (nameProblem? name).toList ++ (callbackProblem? name table).toList

end TokenTable

/-- What a configuration file says. -/
structure Configuration where
  policy : HookPolicy
  marks : Marks
  tokens : Dictionary Text TokenTable
deriving DecidableEq

namespace Configuration

/-- The configuration of a site that says nothing. -/
def standard : Configuration := ⟨.standard, .standard, .empty⟩

/-- Everything that is wrong with a configuration: the delimiters first, then
the tables in ascending order of their names. -/
def problems (configuration : Configuration) : List Problem :=
  configuration.marks.problems.map Problem.delimiter ++
    configuration.tokens.entries.flatMap fun (name, table) => table.problems name

/-- The problems of one severity. -/
def problemsOf (severity : Severity) (configuration : Configuration) : List Problem :=
  configuration.problems.filter fun problem => problem.severity = severity

/-- Whether nothing is wrong with a configuration. -/
def isValid (configuration : Configuration) : Bool :=
  configuration.problems.isEmpty

/-- The definitions of the tables that set exactly one callback, in ascending order of names. -/
def definitions {H : Type} (configuration : Configuration) : List (Definition H) :=
  configuration.tokens.entries.filterMap fun (name, table) =>
    table.callback?.map fun callback => ⟨name, callback, table.description⟩

/-- A configuration in which each switch of the policy may be set anew. -/
def override (configuration : Configuration) (automatic frontendOnly : Option Bool) :
    Configuration :=
  { configuration with policy := configuration.policy.override automatic frontendOnly }

end Configuration
end PageTokens
