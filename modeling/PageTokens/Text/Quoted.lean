import PageTokens.Text.Case
import PageTokens.Text.VisibilityTable

/-!
# Quoted texts

A quoted text shows every character: a quotation mark and a backslash follow a
backslash, and what has no form of its own stands as an escape.
-/

namespace PageTokens.Text

/-- The hexadecimal digits of a number. -/
def hexadecimal (number : Nat) : Text :=
  Nat.toDigits 16 number

/-- Whether a character stands for itself in a quoted text. -/
def isVisible (char : Char) : Bool :=
  !inRanges VisibilityTable.invisible char.toNat &&
    (!inRanges VisibilityTable.graphemeExtend char.toNat ||
      inRanges VisibilityTable.voicingMarks char.toNat)

/-- A character as it stands in a quoted text. -/
def escapeChar (char : Char) : Text :=
  match char.toNat with
  | 0x0 => "\\0".toList
  | 0x9 => "\\t".toList
  | 0xa => "\\n".toList
  | 0xd => "\\r".toList
  | 0x22 => "\\\"".toList
  | 0x5c => "\\\\".toList
  | code =>
    if isVisible char then [char]
    else "\\u\x7b".toList ++ hexadecimal code ++ "\x7d".toList

/-- A text between quotation marks. -/
def quoted (text : Text) : Text :=
  "\"".toList ++ text.flatMap escapeChar ++ "\"".toList

/-- An optional text: `None`, or `Some` with the quoted text. -/
def quotedOption : Option Text → Text
  | none => "None".toList
  | some text => "Some(".toList ++ quoted text ++ ")".toList

end PageTokens.Text
