import PageTokens.Text.Basic

/-!
# The shortest decimal of a double

A double stands for all numbers that are rounded to it. Among them are decimals,
and the shortest one is a decimal with as few digits as possible, the nearest
to the double of those. Its text tells the double apart from all others.
-/

namespace PageTokens

/-- The number `digits` times ten to the power of `exponent`. -/
structure Decimal where
  digits : Nat
  exponent : Int
deriving DecidableEq, Repr

/-- The number `mantissa` times two to the power of `exponent`. -/
structure Magnitude where
  mantissa : Nat
  exponent : Int
deriving DecidableEq, Repr

namespace Magnitude

/-- The mantissa from which on a double has all its digits. -/
def fullMantissa : Nat := 0x10000000000000

/-- The least exponent of a double. -/
def leastExponent : Int := -1074

/-- The magnitude of a finite double. -/
def ofFloat (number : Float) : Magnitude :=
  let bits := number.toBits.toNat
  let fraction := bits % fullMantissa
  let scale := bits / fullMantissa % 0x800
  if scale = 0 then ⟨fraction, leastExponent⟩
  else ⟨fraction + fullMantissa, leastExponent + Int.ofNat (scale - 1)⟩

/-- The quarters of a unit of the last place from the least number that is
rounded to a double up to the double, and from there to the greatest one. Below
a power of two the doubles are twice as dense. -/
def reach (double : Magnitude) : Nat × Nat :=
  if double.mantissa = fullMantissa ∧ leastExponent < double.exponent then (1, 2) else (2, 2)

/-- A decimal and a unit for it, in the same measure: the unit is a quarter of
the last place of the double. -/
def measured (double : Magnitude) (decimal : Decimal) : Nat × Nat :=
  let quarter := double.exponent - 2
  (decimal.digits * Nat.pow 10 decimal.exponent.toNat * Nat.pow 2 (-quarter).toNat,
    Nat.pow 2 quarter.toNat * Nat.pow 10 (-decimal.exponent).toNat)

/-- Whether a decimal is rounded to a double. A decimal halfway between two doubles
is rounded to the one with the even mantissa. -/
def stands (double : Magnitude) (decimal : Decimal) : Bool :=
  let (place, unit) := double.measured decimal
  let (below, above) := double.reach
  let least := (4 * double.mantissa - below) * unit
  let greatest := (4 * double.mantissa + above) * unit
  if double.mantissa % 2 = 0 then least ≤ place && place ≤ greatest
  else least < place && place < greatest

/-- How far a decimal is from a double, in a measure that is the same for all
decimals with one exponent. -/
def distance (double : Magnitude) (decimal : Decimal) : Nat :=
  let (place, unit) := double.measured decimal
  let own := 4 * double.mantissa * unit
  (place - own) + (own - place)

/-- The nearer one of two decimals with one exponent. Of two that are equally near
it is the one with the even last digit. -/
def nearer (double : Magnitude) (left right : Decimal) : Decimal :=
  if double.distance left < double.distance right then left
  else if double.distance right < double.distance left then right
  else if left.digits % 2 = 0 then left else right

/-- The nearest decimal with a given exponent that is rounded to a double. -/
def decimalAt? (double : Magnitude) (exponent : Int) : Option Decimal :=
  let digits :=
    double.mantissa * Nat.pow 2 double.exponent.toNat * Nat.pow 10 (-exponent).toNat /
      (Nat.pow 2 (-double.exponent).toNat * Nat.pow 10 exponent.toNat)
  let lower : Decimal := ⟨digits, exponent⟩
  let upper : Decimal := ⟨digits + 1, exponent⟩
  match double.stands lower, double.stands upper with
  | true, true => some (double.nearer lower upper)
  | true, false => some lower
  | false, true => some upper
  | false, false => none

/-- A power of ten above a double, not far above it. The logarithm of two is a
little less than 30103 parts of 100000. -/
def topExponent (double : Magnitude) : Int :=
  (Int.ofNat (Nat.log2 double.mantissa) + double.exponent) * 30103 / 100000 + 2

/-- The number of digits within which every double has a decimal, with some to spare. -/
def maximumDigits : Nat := 22

/-- The shortest decimal of a double. That of zero has a single zero. -/
def shortest (double : Magnitude) : Decimal :=
  if double.mantissa = 0 then ⟨0, 0⟩
  else
    ((List.range maximumDigits).findSome? fun step =>
      double.decimalAt? (double.topExponent - Int.ofNat step)).getD ⟨0, 0⟩

end Magnitude

namespace Decimal

/-- The greatest number of digits before the point. -/
def maximumWhole : Int := 16

/-- The greatest number of zeros between the point and the first other digit. -/
def maximumZeros : Int := 4

/-- The text of a decimal: with a point among its digits or with zeros that take
it there, or else with one digit before the point and an exponent. -/
def shown (decimal : Decimal) : Text :=
  let digits := Text.ofNat decimal.digits
  let whole := Int.ofNat digits.length + decimal.exponent
  if 0 ≤ decimal.exponent ∧ whole ≤ maximumWhole then
    digits ++ List.replicate decimal.exponent.toNat '0' ++ ".0".toList
  else if 0 < whole ∧ whole ≤ maximumWhole then
    digits.take whole.toNat ++ '.' :: digits.drop whole.toNat
  else if -maximumZeros ≤ whole ∧ whole ≤ 0 then
    "0.".toList ++ List.replicate (-whole).toNat '0' ++ digits
  else
    let mantissa := match digits with
      | first :: second :: rest => first :: '.' :: second :: rest
      | single => single
    mantissa ++ (if 0 < whole then "e+" else "e").toList ++ Text.ofInt (whole - 1)

end Decimal

/-- The text of a finite double. -/
def Text.ofFloat (number : Float) : Text :=
  (if number.toBits.toNat < 0x8000000000000000 then [] else ['-']) ++
    (Magnitude.ofFloat number).shortest.shown

end PageTokens
