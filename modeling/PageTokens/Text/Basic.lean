/-!
# Text

A text is a list of characters. Lengths and positions that the outside world
sees count the bytes of its UTF-8 form.
-/

namespace PageTokens

/-- A text, character by character. -/
abbrev Text := List Char

/-- Of two texts that differ, one comes before the other. -/
instance : Std.Trichotomous (fun left right : Text => left < right) :=
  ⟨fun left right notBefore notAfter =>
    @List.le_antisymm Char Char.instLT Char.ltTrichotomous left right notAfter notBefore⟩

namespace Text

/-- The number of bytes in the UTF-8 form of a text. -/
def byteLength : Text → Nat
  | [] => 0
  | char :: rest => char.utf8Size + byteLength rest

@[simp] theorem byteLength_nil : byteLength [] = 0 := rfl

@[simp] theorem byteLength_cons (char : Char) (rest : Text) :
    byteLength (char :: rest) = char.utf8Size + byteLength rest := rfl

@[simp] theorem byteLength_append (left right : Text) :
    byteLength (left ++ right) = byteLength left + byteLength right := by
  induction left with
  | nil => simp
  | cons char rest inductionHypothesis =>
    simp [inductionHypothesis, Nat.add_assoc]

/-- A text that is not empty has bytes. -/
theorem byteLength_pos {text : Text} (solid : text ≠ []) : 0 < byteLength text := by
  obtain ⟨char, rest, rfl⟩ := List.exists_cons_of_ne_nil solid
  exact Nat.add_pos_left char.utf8Size_pos _

/-- What is left of a text once the characters that begin before byte `count` are gone. -/
def dropBytes (count : Nat) : Text → Text
  | [] => []
  | char :: rest =>
    if count = 0 then char :: rest else dropBytes (count - char.utf8Size) rest

/-- The characters of a text that begin before byte `count`. -/
def takeBytes (count : Nat) : Text → Text
  | [] => []
  | char :: rest =>
    if count = 0 then [] else char :: takeBytes (count - char.utf8Size) rest

/-- A text falls apart into the part before a byte position and the part from there on. -/
theorem takeBytes_append_dropBytes (count : Nat) (text : Text) :
    takeBytes count text ++ dropBytes count text = text := by
  induction text generalizing count with
  | nil => rfl
  | cons char rest inductionHypothesis =>
    by_cases zero : count = 0
    · simp [takeBytes, dropBytes, zero]
    · simp [takeBytes, dropBytes, zero, inductionHypothesis]

/-- Dropping the bytes of a text from its continuation leaves what continues it. -/
@[simp] theorem dropBytes_byteLength (left right : Text) :
    dropBytes (byteLength left) (left ++ right) = right := by
  induction left with
  | nil => cases right <;> simp [dropBytes]
  | cons char rest inductionHypothesis =>
    have positive := char.utf8Size_pos
    have solid : char.utf8Size + byteLength rest ≠ 0 := by omega
    simp only [byteLength_cons, List.cons_append, dropBytes, if_neg solid,
      Nat.add_sub_cancel_left, inductionHypothesis]

/-- Taking the bytes of a text from its continuation gives the text. -/
@[simp] theorem takeBytes_byteLength (left right : Text) :
    takeBytes (byteLength left) (left ++ right) = left := by
  have whole := takeBytes_append_dropBytes (byteLength left) (left ++ right)
  rw [dropBytes_byteLength] at whole
  exact List.append_cancel_right whole

/-- The decimal digits of a number. -/
def ofNat (number : Nat) : Text :=
  Nat.toDigits 10 number

/-- The decimal digits of a number, with a minus sign in front of a negative one. -/
def ofInt : Int → Text
  | .ofNat number => ofNat number
  | .negSucc number => '-' :: ofNat (number + 1)

/-- `true` or `false`. -/
def ofBool (flag : Bool) : Text :=
  if flag then "true".toList else "false".toList

/-- A text made at least `width` characters wide by blanks on its right. -/
def padRight (width : Nat) (text : Text) : Text :=
  text ++ List.replicate (width - text.length) ' '

/-- A text between two apostrophes. -/
def inApostrophes (text : Text) : Text :=
  '\x27' :: text ++ ['\x27']

end Text
end PageTokens
