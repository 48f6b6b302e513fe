import PageTokens.Dictionary
import PageTokens.Number.Numeral

/-!
# Reading JSON text

A JSON text is one value with blanks around it. Of two entries of a record with
one key the later one counts, and the entries are kept in the order of their keys.
-/

namespace PageTokens.JsonReader

/-- The text behind the blanks between the words of a JSON text. -/
def skipBlanks (text : Text) : Text :=
  text.dropWhile fun char => char = ' ' || char = '\t' || char = '\n' || char = '\r'

/-- The value of a hexadecimal digit. -/
def hexDigit? (char : Char) : Option Nat :=
  if char.isDigit then some (char.toNat - 0x30)
  else if 'a' ≤ char.toLower ∧ char.toLower ≤ 'f' then some (char.toLower.toNat - 0x57)
  else none

/-- The number that four hexadecimal digits stand for. -/
def unit? (a b c d : Char) : Option Nat :=
  [a, b, c, d].foldlM (fun number digit => (hexDigit? digit).map (16 * number + ·)) 0

/-- What a single character behind a backslash stands for. -/
def unescaped? : Char → Option Char
  | 'b' => some '\x08'
  | 't' => some '\t'
  | 'n' => some '\n'
  | 'f' => some '\x0c'
  | 'r' => some '\r'
  | '\x22' => some '\x22'
  | '\x5c' => some '\x5c'
  | '/' => some '/'
  | _ => none

/-- A read text with one more character in front. -/
def withFirst (char : Char) (read : Option (Text × Text)) : Option (Text × Text) :=
  read.map fun (text, rest) => (char :: text, rest)

/-- The rest of a text between quotation marks, and what follows it. A character
that takes two units of UTF-16 is escaped as these two units. -/
def quoted? : Text → Option (Text × Text)
  | [] => none
  | '\x22' :: rest => some ([], rest)
  | '\x5c' :: 'u' :: a :: b :: c :: d :: rest =>
    match unit? a b c d with
    | none => none
    | some first =>
      if first < 0xd800 ∨ 0xdfff < first then withFirst (Char.ofNat first) (quoted? rest)
      else
        match rest with
        | '\x5c' :: 'u' :: e :: f :: g :: h :: after =>
          match unit? e f g h with
          | none => none
          | some second =>
            if first < 0xdc00 ∧ 0xdc00 ≤ second ∧ second ≤ 0xdfff then
              withFirst (Char.ofNat (0x10000 + (first - 0xd800) * 0x400 + (second - 0xdc00)))
                (quoted? after)
            else none
        | _ => none
  | '\x5c' :: char :: rest =>
    match unescaped? char with
    | none => none
    | some meant => withFirst meant (quoted? rest)
  | char :: rest => if char < ' ' then none else withFirst char (quoted? rest)

/-- A value without brackets or quotation marks: a word or a numeral. -/
def plain? : Text → Option (Data × Text)
  | 'n' :: 'u' :: 'l' :: 'l' :: rest => some (Data.null, rest)
  | 't' :: 'r' :: 'u' :: 'e' :: rest => some (.boolean true, rest)
  | 'f' :: 'a' :: 'l' :: 's' :: 'e' :: rest => some (.boolean false, rest)
  | text => do
    let (numeral, rest) ← Numeral.read? text
    let value ← numeral.data?
    some (value, rest)

/-- A record with some entries. -/
def ofEntries (entries : List (Text × Data)) : Data :=
  .record (Dictionary.ofList entries).entries

mutual

/-- A value at the beginning of a text, and what follows it. -/
def value? : Nat → Text → Option (Data × Text)
  | 0, _ => none
  | depth + 1, text =>
    match skipBlanks text with
    | '\x22' :: rest => (quoted? rest).map fun (content, after) => (.text content, after)
    | '[' :: rest =>
      match skipBlanks rest with
      | ']' :: after => some (.list [], after)
      | _ => (items? depth rest).map fun (items, after) => (.list items, after)
    | '\x7b' :: rest =>
      match skipBlanks rest with
      | '\x7d' :: after => some (.record [], after)
      | _ => (entries? depth rest).map fun (entries, after) => (ofEntries entries, after)
    | rest => plain? rest

/-- The items of a list up to its closing bracket. -/
def items? : Nat → Text → Option (List Data × Text)
  | 0, _ => none
  | depth + 1, text => do
    let (item, rest) ← value? depth text
    match skipBlanks rest with
    | ',' :: more => do
      let (items, after) ← items? depth more
      some (item :: items, after)
    | ']' :: after => some ([item], after)
    | _ => none

/-- The entries of a record up to its closing brace. -/
def entries? : Nat → Text → Option (List (Text × Data) × Text)
  | 0, _ => none
  | depth + 1, text => do
    match skipBlanks text with
    | '\x22' :: start => do
      let (key, behindKey) ← quoted? start
      match skipBlanks behindKey with
      | ':' :: rest => do
        let (value, behind) ← value? depth rest
        match skipBlanks behind with
        | ',' :: more => do
          let (entries, after) ← entries? depth more
          some ((key, value) :: entries, after)
        | '\x7d' :: after => some ([(key, value)], after)
        | _ => none
      | _ => none
    | _ => none

end

end JsonReader

/-- The value that a JSON text stands for. Each bracket and each comma goes one
step deeper, so twice the length of the text is deep enough. -/
def Data.ofJson? (text : Text) : Option Data := do
  let (value, rest) ← JsonReader.value? (2 * text.length + 1) text
  if (JsonReader.skipBlanks rest).isEmpty then some value else none

end PageTokens
