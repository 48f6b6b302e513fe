import PageTokens.Data.Basic
import PageTokens.Text.Cut

/-!
# JSON text

Data written as JSON, on one line or over several lines with an indent of two
blanks. In a text only quotation marks, backslashes and control characters are
escaped.
-/

namespace PageTokens.Data

/-- A character as it stands in a JSON text. -/
def escapeChar (char : Char) : Text :=
  match char.toNat with
  | 0x22 => "\\\"".toList
  | 0x5c => "\\\\".toList
  | 0x8 => "\\b".toList
  | 0x9 => "\\t".toList
  | 0xa => "\\n".toList
  | 0xc => "\\f".toList
  | 0xd => "\\r".toList
  | code =>
    if code < 0x10 then "\\u000".toList ++ Text.hexadecimal code
    else if code < 0x20 then "\\u00".toList ++ Text.hexadecimal code
    else [char]

/-- A text between quotation marks. -/
def quotedText (text : Text) : Text :=
  "\"".toList ++ text.flatMap escapeChar ++ "\"".toList

/-- The written pieces of a list or record: one after the other, or each on a
line of its own, indented by `depth` steps. -/
def enclose (layout : Option Nat) (first last : Text) (pieces : List Text) : Text :=
  match layout with
  | none => first ++ Text.join ",".toList pieces ++ last
  | some depth =>
    if pieces.isEmpty then first ++ last
    else
      let newLine := '\n' :: List.replicate (2 * depth) ' '
      first ++ Text.join ",".toList (pieces.map (newLine ++ "  ".toList ++ ·)) ++ newLine ++ last

mutual

/-- A value written as JSON: on one line, or over several lines when an indent is given. -/
def json (layout : Option Nat) : Data → Text
  | .null => "null".toList
  | .boolean flag => Text.ofBool flag
  | .integer number => Text.ofInt number
  | .fraction digits => digits
  | .text content => quotedText content
  | .list items => enclose layout "[".toList "]".toList (jsonItems (layout.map (· + 1)) items)
  | .record entries =>
    enclose layout "\x7b".toList "\x7d".toList (jsonEntries (layout.map (· + 1)) entries)

/-- The items of a list written as JSON. -/
def jsonItems (layout : Option Nat) : List Data → List Text
  | [] => []
  | item :: rest => json layout item :: jsonItems layout rest

/-- The entries of a record written as JSON. -/
def jsonEntries (layout : Option Nat) : List (Text × Data) → List Text
  | [] => []
  | (key, value) :: rest =>
    (quotedText key ++ (if layout.isSome then ": " else ":").toList ++ json layout value) ::
      jsonEntries layout rest

end

end PageTokens.Data
