import PageTokens.Files.Path

/-!
# Commands

The program has four commands. One replaces tokens in files, one lists the
tokens, one checks the configuration, and one shows the tokens found in a file.
-/

namespace PageTokens

/-- The form in which something is listed. -/
inductive OutputFormat
  | text
  | json
deriving DecidableEq, Repr

namespace OutputFormat

/-- The forms in which something can be listed. -/
def all : List OutputFormat := [text, json]

/-- The name of a form. -/
def name : OutputFormat → Text
  | text => "text".toList
  | json => "json".toList

/-- The form with a given name. -/
def ofName? (name : Text) : Option OutputFormat :=
  all.find? fun format => format.name = name

end OutputFormat

/-- What is replaced and how. -/
structure ReplaceOptions where
  files : List Path
  directory : Option Path
  ending : Text
  configuration : Option Path
  hook : Bool
  admin : Bool
  path : Option Text
  attributes : List (Text × Text)
  noAutomatic : Bool
  allSurfaces : Bool
  inPlace : Bool
  diagnostics : Option OutputFormat
  strict : Bool
deriving DecidableEq

/-- A command with its options. -/
inductive Command
  | replace (options : ReplaceOptions)
  | tokens (configuration : Option Path) (format : OutputFormat)
  | check (configuration : Option Path)
  | parse (input configuration : Option Path)
deriving DecidableEq

/-- What the words of a command line ask for. -/
structure CommandLine where
  verbosity : Nat
  command : Command
deriving DecidableEq

end PageTokens
