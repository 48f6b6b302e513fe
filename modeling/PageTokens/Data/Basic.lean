import PageTokens.Text.Quoted

/-!
# Structured data

Configuration files and requests come as structured data: texts, numbers and
truth values, in lists and records.
-/

namespace PageTokens

/-- A value of structured data. A fraction is kept as its text. -/
inductive Data
  | null
  | boolean (flag : Bool)
  | integer (number : Int)
  | fraction (digits : Text)
  | text (content : Text)
  | list (items : List Data)
  | record (entries : List (Text × Data))
deriving Inhabited

namespace Data

/-- What kind of value is there, in the words of an error message. -/
def described : Data → Text
  | null => "null".toList
  | boolean flag => "boolean `".toList ++ Text.ofBool flag ++ "`".toList
  | integer number => "integer `".toList ++ Text.ofInt number ++ "`".toList
  | fraction digits => "floating point `".toList ++ digits ++ "`".toList
  | text content => "string ".toList ++ Text.quoted content
  | list _ => "sequence".toList
  | record _ => "map".toList

/-- A list of texts. -/
def texts (items : List Text) : Data :=
  list (items.map text)

/-- A number that is not negative. -/
def number (number : Nat) : Data :=
  integer number

end Data
end PageTokens
