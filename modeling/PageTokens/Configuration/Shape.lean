import PageTokens.Configuration.Basic

/-!
# The shape of a configuration file

A configuration is read from structured data. Everything in it may be absent and
then has its standard value.
-/

namespace PageTokens

namespace HookPolicy

/-- Reads the policy in a configuration. -/
def sectionReader (surplus : Reader.Surplus) : Reader HookPolicy :=
  .shape
    { title := "ReplacementsConfig".toList
      members := [
        .optional "automatic_mode_enabled".toList .flag fun policy flag =>
          { policy with automatic := flag },
        .optional "frontend_only_mode".toList .flag fun policy flag =>
          { policy with frontendOnly := flag }]
      blank := standard
      surplus := surplus }

end HookPolicy

namespace Marks

/-- The five texts with another text for a role. -/
def set (marks : Marks) (text : Text) : Role → Marks
  | .start => { marks with start := text }
  | .stop => { marks with stop := text }
  | .parameter => { marks with parameter := text }
  | .keyValue => { marks with keyValue := text }
  | .multivalue => { marks with multivalue := text }

/-- Reads the delimiters in a configuration. -/
def reader (surplus : Reader.Surplus) : Reader Marks :=
  .shape
    { title := "DelimitersConfig".toList
      members := Role.all.map fun role =>
        .optional role.name .text fun marks text => marks.set text role
      blank := standard
      surplus := surplus }

end Marks

namespace TokenTable

/-- Reads a table that declares a token. -/
def reader (surplus : Reader.Surplus) : Reader TokenTable :=
  .shape
    { title := "TokenConfig".toList
      members := [
        .optional "static".toList (.optional .text) fun table text => { table with fixed := text },
        .optional "builtin".toList (.optional .text) fun table name =>
          { table with builtin := name },
        .optional "description".toList (.optional .text) fun table text =>
          { table with description := text }]
      blank := ⟨none, none, none⟩
      surplus := surplus }

end TokenTable

namespace Configuration

/-- Reads a configuration. -/
def reader (surplus : Reader.Surplus) : Reader Configuration :=
  .shape
    { title := "CtrConfig".toList
      members := [
        .optional "replacements".toList (HookPolicy.sectionReader surplus)
          fun configuration policy => { configuration with policy := policy },
        .optional "delimiters".toList (Marks.reader surplus)
          fun configuration marks => { configuration with marks := marks },
        .optional "tokens".toList (.dictionary (TokenTable.reader surplus))
          fun configuration tokens => { configuration with tokens := tokens }]
      blank := standard
      surplus := surplus }

end Configuration
end PageTokens
