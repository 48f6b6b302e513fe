import PageTokens.Data.Basic
import PageTokens.Number.Shortest

/-!
# Numerals

A numeral is a number in decimal digits, with or without a point and an
exponent. A numeral of digits alone is an integer as long as it fits into 64
bits. Any other numeral is a double: its leading digits, as many as fit into 64
bits, are rounded to a double, and the double is multiplied with a power of ten
or divided by one.
-/

namespace PageTokens

/-- A number as it is written. -/
structure Numeral where
  negative : Bool
  whole : Text
  places : Option Text
  power : Option Int
deriving DecidableEq

namespace Numeral

/-- The digits at the beginning of a text and what follows them, if there are any. -/
def digits? (text : Text) : Option (Text × Text) :=
  let digits := text.takeWhile Char.isDigit
  if digits.isEmpty then none else some (digits, text.drop digits.length)

/-- The places behind a point, if there is a point. -/
def places? : Text → Option (Option Text × Text)
  | '.' :: rest => (digits? rest).map fun (places, after) => (some places, after)
  | text => some (none, text)

/-- The value of a digit. -/
def digitValue (digit : Char) : Nat :=
  digit.toNat - 0x30

/-- The number that some digits stand for. -/
def ofDigits (digits : Text) : Nat :=
  digits.foldl (fun number digit => 10 * number + digitValue digit) 0

/-- An exponent without the letter in front of it. -/
def signed? (text : Text) : Option (Int × Text) :=
  match text with
  | '-' :: rest => (digits? rest).map fun (digits, after) => (-Int.ofNat (ofDigits digits), after)
  | '+' :: rest => (digits? rest).map fun (digits, after) => (Int.ofNat (ofDigits digits), after)
  | _ => (digits? text).map fun (digits, after) => (Int.ofNat (ofDigits digits), after)

/-- The exponent, if there is one. -/
def power? : Text → Option (Option Int × Text)
  | 'e' :: rest | 'E' :: rest => (signed? rest).map fun (power, after) => (some power, after)
  | text => some (none, text)

/-- Reads a numeral at the beginning of a text. Only a single zero may begin with one. -/
def read? (text : Text) : Option (Numeral × Text) := do
  let (negative, unsigned) := match text with
    | '-' :: rest => (true, rest)
    | _ => (false, text)
  let (whole, behindWhole) ← digits? unsigned
  if whole.head? = some '0' ∧ whole.length ≠ 1 then none
  let (places, behindPlaces) ← places? behindWhole
  let (power, rest) ← power? behindPlaces
  some (⟨negative, whole, places, power⟩, rest)

/-- The greatest number of leading digits that is kept. -/
def maximumLeading : Nat := 0xffffffffffffffff

/-- The digits of a numeral that are kept, with the exponent that stands for the
others, and whether more digits may be kept. -/
structure Leading where
  number : Nat
  exponent : Int
  isOpen : Bool
deriving DecidableEq

/-- The kept digits with one more of them, if it fits. -/
def Leading.push? (leading : Leading) (digit : Char) : Option Nat :=
  let number := 10 * leading.number + digitValue digit
  if leading.isOpen && number ≤ maximumLeading then some number else none

/-- The kept digits behind one more digit before the point. -/
def Leading.pushWhole (leading : Leading) (digit : Char) : Leading :=
  match leading.push? digit with
  | some number => { leading with number := number }
  | none => { leading with exponent := leading.exponent + 1, isOpen := false }

/-- The kept digits behind one more digit after the point. -/
def Leading.pushPlace (leading : Leading) (digit : Char) : Leading :=
  match leading.push? digit with
  | some number => { leading with number := number, exponent := leading.exponent - 1 }
  | none => { leading with isOpen := false }

/-- The leading digits before the point. -/
def leadingWhole (numeral : Numeral) : Leading :=
  numeral.whole.foldl Leading.pushWhole ⟨0, 0, true⟩

/-- The leading digits. Behind the point the keeping of digits begins anew. -/
def leading (numeral : Numeral) : Leading :=
  (numeral.places.getD []).foldl Leading.pushPlace { numeral.leadingWhole with isOpen := true }

/-- The greatest exponent of a power of ten among the doubles. -/
def maximumPower : Nat := 308

/-- A power of ten. -/
def powerOfTen (power : Nat) : Float :=
  Float.ofScientific 1 false power

/-- A double divided by a power of ten, in steps when the power is too great for a double. -/
def divided (number : Float) (power : Nat) : Float :=
  if power ≤ maximumPower then number / powerOfTen power
  else if number == 0 then number
  else divided (number / powerOfTen maximumPower) (power - maximumPower)
termination_by power
decreasing_by unfold maximumPower at *; omega

/-- A double times a power of ten, unless that is too great for a double. -/
def scaled? (number : Float) : Int → Option Float
  | .negSucc power => some (divided number (power + 1))
  | .ofNat power =>
    if power ≤ maximumPower then
      let product := number * powerOfTen power
      if product.isInf then none else some product
    else if number == 0 then some number
    else none

/-- The double that a numeral stands for. -/
def float? (numeral : Numeral) : Option Float :=
  let leading := numeral.leading
  (scaled? leading.number.toUInt64.toFloat (leading.exponent + numeral.power.getD 0)).map
    fun number => if numeral.negative then -number else number

/-- The integer that a numeral stands for. There is no negative zero among the integers. -/
def integer? (numeral : Numeral) : Option Int :=
  let leading := numeral.leadingWhole
  if numeral.places.isSome || numeral.power.isSome || !leading.isOpen then none
  else if !numeral.negative then some (Int.ofNat leading.number)
  else if 0 < leading.number && leading.number ≤ 0x8000000000000000 then
    some (-Int.ofNat leading.number)
  else none

/-- The value of a numeral, unless it is too great for a double. -/
def data? (numeral : Numeral) : Option Data :=
  match numeral.integer? with
  | some number => some (.integer number)
  | none => numeral.float?.map fun number => .fraction (Text.ofFloat number)

end Numeral
end PageTokens
