import PageTokens.Data.Json
import PageTokens.Replacer

/-!
# Listings

Tokens, occurrences and diagnostics as the program prints them, as lines of text
and as JSON.
-/

namespace PageTokens

/-- A text with the end of its line. -/
def Text.line (text : Text) : Text :=
  text ++ ['\n']

namespace Definition

variable {H : Type}

/-- Whether a definition can replace a token, in words. -/
def status (definition : Definition H) : Text :=
  match definition.nameValid, definition.callbackValid with
  | true, true => "ok".toList
  | false, true => "invalid name".toList
  | true, false => "invalid callback".toList
  | false, false => "invalid name, invalid callback".toList

/-- A definition as data, with an example of its token. -/
def listed (example? : Option Text) (definition : Definition H) : Data :=
  let optional (key : String) (value : Option Text) : List (Text × Data) :=
    (value.map fun text => (key.toList, Data.text text)).toList
  .record <|
    [("callback_valid".toList, .boolean definition.callbackValid)] ++
      optional "description" definition.description ++ optional "example" example? ++
      [("kind".toList, .text definition.callback.kind.name),
        ("name".toList, .text definition.name),
        ("name_valid".toList, .boolean definition.nameValid)] ++
      optional "target" definition.callback.target?

/-- A row of the list of tokens. -/
def row (width : Nat) (columns : Text × Text × Text × Text) : Text :=
  let (name, kind, status, description) := columns
  Text.line (Text.padRight width name ++ "  ".toList ++ Text.padRight 8 kind ++ "  ".toList ++
    Text.padRight 20 status ++ "  ".toList ++ description)

/-- The list of tokens as a table. The column of the names is as wide as the
name with the most bytes. -/
def table (definitions : List (Definition H)) : Text :=
  let width := (definitions.map fun definition => definition.name.byteLength).foldl max 4
  row width ("NAME".toList, "KIND".toList, "STATUS".toList, "DESCRIPTION".toList) ++
    definitions.flatMap fun definition =>
      row width (definition.name, definition.callback.kind.name, definition.status,
        definition.description.getD [])

end Definition

/-- A value as data. -/
def Value.listed : Value → Data
  | .single text => .text text
  | .multi items => .texts items

/-- Parameters as data. -/
def Parameters.listed (parameters : Parameters) : Data :=
  .record [
    ("positional".toList, .list (parameters.positional.map Value.listed)),
    ("named".toList, .record (parameters.named.entries.map fun (key, value) =>
      (key, value.listed)))]

/-- An occurrence as data. -/
def Occurrence.listed (occurrence : Occurrence) : Data :=
  .record [
    ("name".toList, .text occurrence.name),
    ("span".toList, .record [
      ("start".toList, .number occurrence.span.start),
      ("end".toList, .number occurrence.span.stop)]),
    ("raw_params".toList, (occurrence.rawParameters.map Data.text).getD .null),
    ("params".toList, occurrence.parameters.listed)]

namespace Diagnostic

/-- A diagnostic as data. -/
def listed (diagnostic : Diagnostic) : Data :=
  .record <|
    (diagnostic.detail?.map fun detail => ("detail".toList, Data.text detail)).toList ++
      [("name".toList, .text diagnostic.name),
        ("outcome".toList, .text diagnostic.label),
        ("span".toList, .record [
          ("end".toList, .number diagnostic.span.stop),
          ("start".toList, .number diagnostic.span.start)])]

/-- A diagnostic of a source in one line of JSON. -/
def jsonLine (source : Text) (diagnostic : Diagnostic) : Text :=
  (Data.record [
    ("diagnostic".toList, diagnostic.listed),
    ("source".toList, .text source)]).json none

/-- A diagnostic of a source in one line of text. -/
def textLine (source : Text) (diagnostic : Diagnostic) : Text :=
  source ++ ":".toList ++ Text.ofNat diagnostic.span.start ++ "..".toList ++
    Text.ofNat diagnostic.span.stop ++ ": ".toList ++ diagnostic.name ++ " ".toList ++
    diagnostic.label ++
    match diagnostic.detail? with
    | some detail => ": ".toList ++ detail
    | none => []

end Diagnostic
end PageTokens
