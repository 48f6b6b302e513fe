import PageTokens.Data.Basic
import PageTokens.Text.Cut

/-!
# Numbers, dates and words

A value without quotes and brackets is one word. The word decides whether the
value is a truth value, a number, a date or a time. A date may be followed by
one blank and a time.
-/

namespace PageTokens.Toml

/-- Whether a character may stand in a value without quotes. -/
def isWordChar (char : Char) : Bool :=
  char.isAlphanum || char = '_' || char = '+' || char = '-' || char = '.' || char = ':'

/-! ## Numbers -/

/-- Whether a text consists of digits, with single underscores between them. -/
def isGrouped (isDigit : Char → Bool) : Text → Bool
  | [] => false
  | [char] => isDigit char
  | char :: '_' :: rest => isDigit char && isGrouped isDigit rest
  | char :: rest => isDigit char && isGrouped isDigit rest

/-- The number with given digits; underscores do not count. -/
def ofDigits (base : Nat) (digits : Text) : Nat :=
  (digits.filter (· ≠ '_')).foldl (fun number char =>
    base * number + (if char.isDigit then char.toNat - 0x30 else char.toLower.toNat - 0x57)) 0

/-- The sign of a number, and its text without the sign. -/
def cutSign : Text → Bool × Text
  | '-' :: rest => (true, rest)
  | '+' :: rest => (false, rest)
  | text => (false, text)

/-- Whether a text is a decimal number without a zero in front. -/
def isDecimal (text : Text) : Bool :=
  isGrouped Char.isDigit text && (text.length = 1 || text.head? ≠ some '0')

/-- The digits of a base other than ten, and the base. -/
def cutBase? : Text → Option (Nat × Text)
  | '0' :: 'x' :: rest => some (16, rest)
  | '0' :: 'o' :: rest => some (8, rest)
  | '0' :: 'b' :: rest => some (2, rest)
  | _ => none

/-- Whether a character is a digit in a base up to sixteen. -/
def isDigitOf (base : Nat) (char : Char) : Bool :=
  if char.isDigit then char.toNat - 0x30 < base
  else ('a' ≤ char.toLower && char.toLower ≤ 'f') && base = 16

/-- An integer that fits into 64 bits with sign. -/
def integer? (word : Text) : Option Int := do
  let number ← match cutBase? word with
    | some (base, digits) =>
      if isGrouped (isDigitOf base) digits then some (Int.ofNat (ofDigits base digits)) else none
    | none =>
      let (negative, digits) := cutSign word
      if isDecimal digits then
        some (if negative then -Int.ofNat (ofDigits 10 digits) else Int.ofNat (ofDigits 10 digits))
      else none
  if -0x8000000000000000 ≤ number ∧ number < 0x8000000000000000 then some number else none

/-- Whether `digits` times ten to the power of `exponent` is too great for a
double: from half a unit above the greatest double on. -/
def isTooGreat (digits : Nat) (exponent : Int) : Bool :=
  let magnitude := Int.ofNat (Nat.toDigits 10 digits).length + exponent
  if digits = 0 ∨ magnitude < 309 then false
  else if 310 < magnitude then true
  else
    let limit := Nat.pow 2 1024 - Nat.pow 2 970
    limit * Nat.pow 10 (-exponent).toNat ≤ digits * Nat.pow 10 exponent.toNat

/-- Whether a word is a fraction: decimal digits with a decimal point, an
exponent, or both. -/
def isFraction (word : Text) : Bool :=
  let (negative, unsigned) := cutSign word
  let mantissa := unsigned.takeWhile fun char => char ≠ 'e' && char ≠ 'E'
  let power := unsigned.drop mantissa.length
  let whole := mantissa.takeWhile (· ≠ '.')
  let point := mantissa.drop whole.length
  let powerDigits := cutSign (power.drop 1)
  let exponent :=
    if powerDigits.1 then -Int.ofNat (ofDigits 10 powerDigits.2)
    else Int.ofNat (ofDigits 10 powerDigits.2)
  let places := (point.drop 1).filter (· ≠ '_')
  isDecimal whole && (!point.isEmpty || !power.isEmpty) &&
    (point.isEmpty || isGrouped Char.isDigit (point.drop 1)) &&
    (power.isEmpty || isGrouped Char.isDigit powerDigits.2) &&
    (negative || !isTooGreat (ofDigits 10 (whole ++ places)) (exponent - Int.ofNat places.length))

/-- Whether a word is infinity or no number. -/
def isSpecialNumber (word : Text) : Bool :=
  let unsigned := (cutSign word).2
  unsigned = "inf".toList || unsigned = "nan".toList

/-! ## Dates and times -/

/-- Whether two digits are a number in a range. -/
def isPairWithin (first last : Nat) (tens ones : Char) : Bool :=
  let number := ofDigits 10 [tens, ones]
  tens.isDigit && ones.isDigit && first ≤ number && number ≤ last

/-- The number of days of a month. -/
def daysOf (year month : Nat) : Nat :=
  if month = 2 then
    if year % 4 = 0 ∧ (year % 100 ≠ 0 ∨ year % 400 = 0) then 29 else 28
  else if month = 4 ∨ month = 6 ∨ month = 9 ∨ month = 11 then 30
  else 31

/-- Whether a text is a date. -/
def isDate : Text → Bool
  | [a, b, c, d, '-', m, n, '-', x, y] =>
    [a, b, c, d].all Char.isDigit && isPairWithin 1 12 m n &&
      isPairWithin 1 (daysOf (ofDigits 10 [a, b, c, d]) (ofDigits 10 [m, n])) x y
  | _ => false

/-- Whether a text is the difference to universal time. -/
def isOffset : Text → Bool
  | ['Z'] | ['z'] => true
  | [sign, h, i, ':', m, n] =>
    (sign = '+' || sign = '-') && isPairWithin 0 23 h i && isPairWithin 0 59 m n
  | _ => false

/-- Whether a text is a time, followed by a difference to universal time where one is allowed. -/
def isTime (offsetAllowed : Bool) : Text → Bool
  | h :: i :: ':' :: m :: n :: ':' :: s :: t :: rest =>
    let behind := match rest with
      | '.' :: digits => digits.dropWhile Char.isDigit
      | _ => rest
    let fractionSound := match rest with
      | '.' :: digit :: _ => digit.isDigit
      | ['.'] => false
      | _ => true
    isPairWithin 0 23 h i && isPairWithin 0 59 m n && isPairWithin 0 60 s t && fractionSound &&
      (behind.isEmpty || (offsetAllowed && isOffset behind))
  | _ => false

/-- Whether a word is a date, a time, or a date and a time with a letter between them. -/
def isMoment (word : Text) : Bool :=
  isDate word || isTime false word ||
    (isDate (word.take 10) &&
      match word.drop 10 with
      | 'T' :: time | 't' :: time => isTime true time
      | _ => false)

/-- A date and time as data: a record with its text. -/
def moment (text : Text) : Data :=
  .record [("moment".toList, .text text)]

/-! ## Words -/

/-- The value of a word. -/
def ofWord? (word : Text) : Option Data :=
  if word = "true".toList then some (.boolean true)
  else if word = "false".toList then some (.boolean false)
  else match integer? word with
    | some number => some (.integer number)
    | none =>
      if isSpecialNumber word || isFraction word then some (.fraction word)
      else if isMoment word then some (moment word)
      else none

/-- A value without quotes and brackets. -/
def scalarValue? (text : Text) : Option (Data × Text) :=
  let word := text.takeWhile isWordChar
  let rest := text.drop word.length
  let time := (rest.drop 1).takeWhile isWordChar
  if isDate word && rest.head? = some ' ' && isTime true time then
    some (moment (word ++ ' ' :: time), rest.drop (1 + time.length))
  else (ofWord? word).map (·, rest)

end PageTokens.Toml
