import PageTokens.Text.Basic

/-!
# Words of a TOML document

Blanks, comments, quoted texts and keys. Each reader gives what it has read and
the text behind it, or nothing when the text does not begin with what it reads.
Lines end with a line feed alone; `withLineFeeds` brings a document into that
form.
-/

namespace PageTokens.Toml

/-- A document with every pair of carriage return and line feed as a line feed. -/
def withLineFeeds : Text → Text
  | [] => []
  | '\r' :: '\n' :: rest => '\n' :: withLineFeeds rest
  | char :: rest => char :: withLineFeeds rest

/-- Whether a character separates words within a line. -/
def isSpace (char : Char) : Bool :=
  char = ' ' || char = '\t'

/-- Whether a character may stand in a comment or in a quoted text as it is. -/
def isPlain (char : Char) : Bool :=
  char = '\t' || (0x20 ≤ char.toNat && char.toNat ≠ 0x7f)

/-- Whether a character may stand in a key without quotes. -/
def isKeyChar (char : Char) : Bool :=
  char.isAlphanum || char = '_' || char = '-'

/-- The text behind the blanks of a line. -/
def skipSpace (text : Text) : Text :=
  text.dropWhile isSpace

/-- The text behind a comment, if there is one. -/
def skipComment (text : Text) : Text :=
  match text with
  | '#' :: rest => rest.dropWhile isPlain
  | _ => text

/-- The text behind the end of a line, where nothing but blanks and a comment is left of it. -/
def endLine? (text : Text) : Option Text :=
  match skipComment (skipSpace text) with
  | [] => some []
  | '\n' :: rest => some rest
  | _ => none

theorem length_skipSpace_le (text : Text) : (skipSpace text).length ≤ text.length :=
  (List.dropWhile_sublist isSpace).length_le

/-- The text behind blanks, ends of lines, and comments that end with their line. -/
def skipLines? (text : Text) : Option Text :=
  match skipped : skipSpace text with
  | '\n' :: rest =>
    have : rest.length < text.length := by
      have := length_skipSpace_le text
      simp only [skipped, List.length_cons] at this
      omega
    skipLines? rest
  | '#' :: rest =>
    match comment : rest.dropWhile isPlain with
    | '\n' :: after =>
      have : after.length < text.length := by
        have := length_skipSpace_le text
        have comment_le :=
          (List.dropWhile_sublist isPlain : (rest.dropWhile isPlain).Sublist rest).length_le
        simp only [skipped, comment, List.length_cons] at this comment_le
        omega
      skipLines? after
    | _ => none
  | other => some other
termination_by text.length

/-! ## Escapes -/

/-- The value of a hexadecimal digit. -/
def hexValue? (char : Char) : Option Nat :=
  if char.isDigit then some (char.toNat - 0x30)
  else if 'a' ≤ char ∧ char ≤ 'f' then some (char.toNat - 0x57)
  else if 'A' ≤ char ∧ char ≤ 'F' then some (char.toNat - 0x37)
  else none

/-- The character with a code point in hexadecimal digits. -/
def scalar? (digits : Text) : Option Char := do
  let code ← digits.foldlM (fun code char => (hexValue? char).map (16 * code + ·)) 0
  if code < 0xd800 ∨ (0xdfff < code ∧ code < 0x110000) then some (Char.ofNat code) else none

/-- What a single character behind a backslash means. -/
def escaped? : Char → Option Char
  | 'b' => some (Char.ofNat 0x8)
  | 't' => some '\t'
  | 'n' => some '\n'
  | 'f' => some (Char.ofNat 0xc)
  | 'r' => some '\r'
  | '\x22' => some '\x22'
  | '\x5c' => some '\x5c'
  | _ => none

/-- What follows a backslash: the character that is meant. -/
def escape? : Text → Option (Char × Text)
  | 'u' :: a :: b :: c :: d :: rest => (scalar? [a, b, c, d]).map (·, rest)
  | 'U' :: a :: b :: c :: d :: e :: f :: g :: h :: rest =>
    (scalar? [a, b, c, d, e, f, g, h]).map (·, rest)
  | char :: rest => (escaped? char).map (·, rest)
  | [] => none

/-- An escape takes at least one character. -/
theorem length_lt_of_escape? {text rest : Text} {char : Char}
    (found : escape? text = some (char, rest)) : rest.length < text.length := by
  unfold escape? at found
  split at found
  · obtain ⟨_, _, equal⟩ := Option.map_eq_some_iff.mp found
    cases equal
    simp only [List.length_cons]
    omega
  · obtain ⟨_, _, equal⟩ := Option.map_eq_some_iff.mp found
    cases equal
    simp only [List.length_cons]
    omega
  · obtain ⟨_, _, equal⟩ := Option.map_eq_some_iff.mp found
    cases equal
    simp
  · contradiction

/-- The text behind a line that goes on: blanks, the end of the line, and all
blanks and ends of lines after it. -/
def continued? (text : Text) : Option Text :=
  match skipSpace text with
  | '\n' :: rest => some (rest.dropWhile fun char => isSpace char || char = '\n')
  | _ => none

/-- A line that is continued on the next one takes at least one character. -/
theorem length_lt_of_continued? {text rest : Text} (found : continued? text = some rest) :
    rest.length < text.length := by
  unfold continued? at found
  split at found
  · next after skipped =>
    have space := length_skipSpace_le text
    rw [skipped, List.length_cons] at space
    have blanks := (List.dropWhile_sublist (l := after)
      fun char => isSpace char || char = '\n').length_le
    rw [Option.some.inj found] at blanks
    omega
  · contradiction

/-! ## Quoted texts -/

/-- A read text with one more character in front. -/
def prepend (char : Char) (read : Option (Text × Text)) : Option (Text × Text) :=
  read.map fun (text, rest) => (char :: text, rest)

/-- The rest of a text between quotation marks. -/
def basic? : Text → Option (Text × Text)
  | [] => none
  | '\x22' :: rest => some ([], rest)
  | '\x5c' :: rest =>
    match found : escape? rest with
    | some (char, after) =>
      have : after.length < rest.length := length_lt_of_escape? found
      prepend char (basic? after)
    | none => none
  | char :: rest => if isPlain char then prepend char (basic? rest) else none
termination_by text => text.length

/-- The rest of a text between apostrophes. -/
def literal? : Text → Option (Text × Text)
  | [] => none
  | '\x27' :: rest => some ([], rest)
  | char :: rest => if isPlain char then prepend char (literal? rest) else none

/-- The end of a text of several lines behind three quotes: up to two more
quotes belong to the text. -/
def closing (quote : Char) (rest : Text) : Text × Text :=
  let surplus := (rest.takeWhile (· = quote)).take 2
  (surplus, rest.drop surplus.length)

/-- The rest of a text of several lines between quotation marks. -/
def basicLines? : Text → Option (Text × Text)
  | [] => none
  | '\x22' :: '\x22' :: '\x22' :: rest => some (closing '\x22' rest)
  | '\x5c' :: rest =>
    match line : continued? rest with
    | some after =>
      have : after.length < rest.length := length_lt_of_continued? line
      basicLines? after
    | none =>
      match found : escape? rest with
      | some (char, after) =>
        have : after.length < rest.length := length_lt_of_escape? found
        prepend char (basicLines? after)
      | none => none
  | char :: rest =>
    if char = '\n' || isPlain char then prepend char (basicLines? rest) else none
termination_by text => text.length

/-- The rest of a text of several lines between apostrophes. -/
def literalLines? : Text → Option (Text × Text)
  | [] => none
  | '\x27' :: '\x27' :: '\x27' :: rest => some (closing '\x27' rest)
  | char :: rest =>
    if char = '\n' || isPlain char then prepend char (literalLines? rest) else none

/-- A text without the line feed it begins with. -/
def dropLineFeed : Text → Text
  | '\n' :: rest => rest
  | text => text

/-- A quoted text of any of the four kinds. -/
def quoted? : Text → Option (Text × Text)
  | '\x22' :: '\x22' :: '\x22' :: rest => basicLines? (dropLineFeed rest)
  | '\x22' :: rest => basic? rest
  | '\x27' :: '\x27' :: '\x27' :: rest => literalLines? (dropLineFeed rest)
  | '\x27' :: rest => literal? rest
  | _ => none

/-! ## Keys -/

/-- The greatest depth of keys and of values. -/
def maximumDepth : Nat := 79

/-- One part of a key. -/
def keyPart? : Text → Option (Text × Text)
  | '\x22' :: rest => basic? rest
  | '\x27' :: rest => literal? rest
  | text =>
    let part := text.takeWhile isKeyChar
    if part.isEmpty then none else some (part, text.dropWhile isKeyChar)

/-- A key of at most `limit` parts with dots between them and blanks around them. -/
def keyParts? : Nat → Text → Option (List Text × Text)
  | 0, _ => none
  | limit + 1, text => do
    let (part, after) ← keyPart? (skipSpace text)
    match skipSpace after with
    | '.' :: rest =>
      let (parts, behind) ← keyParts? limit rest
      some (part :: parts, behind)
    | rest => some ([part], rest)

/-- A key. -/
def key? (text : Text) : Option (List Text × Text) :=
  keyParts? maximumDepth text

end PageTokens.Toml
