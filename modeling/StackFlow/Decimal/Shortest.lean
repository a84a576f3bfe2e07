/-!
# The shortest decimal that reads back

A finite binary floating-point number stands for every real that rounds to it. This module finds,
among the decimals in that interval, the one with the fewest digits, and of two such the nearer. It
works in exact natural-number arithmetic: the ends of the interval and the candidates are compared
as fractions over a common denominator, so nothing is rounded on the way.

A candidate with `n` digits is one of the two neighbours of the value on the grid of `n`-digit
decimals. It is enough to look at these two: a point of the grid in the interval lies on one side of
the value, and then the neighbour on that side lies in the interval too.
-/

namespace StackFlow

/-- An interchange format of binary floating-point numbers: how many bits hold the fraction and how
many the exponent. -/
structure FloatFormat where
  fractionBits : Nat
  exponentBits : Nat
deriving Repr, DecidableEq

/-- The magnitude that a bit pattern stands for: not a number, infinite, or
`significand * 2 ^ exponent`. The first number after a power of two lies closer to the number below
it than to the one above. -/
inductive Magnitude where
  | nan
  | infinite
  | finite (significand : Nat) (exponent : Int) (closerBelow : Bool)
deriving Repr, DecidableEq

namespace FloatFormat

/-- The 32-bit format. -/
def single : FloatFormat := ⟨23, 8⟩

/-- The 64-bit format. -/
def double : FloatFormat := ⟨52, 11⟩

/-- The exponent field that marks infinities and values that are not numbers. -/
def topField (format : FloatFormat) : Nat := (1 <<< format.exponentBits) - 1

/-- The power of two that the last bit of the fraction stands for in the smallest numbers. -/
def leastExponent (format : FloatFormat) : Int :=
  2 - ((1 <<< (format.exponentBits - 1) : Nat) : Int) - format.fractionBits

/-- Whether the sign bit of a pattern is set. -/
def isNegative (format : FloatFormat) (bits : Nat) : Bool :=
  (bits >>> (format.fractionBits + format.exponentBits)) % 2 == 1

/-- The magnitude of a bit pattern. -/
def magnitude (format : FloatFormat) (bits : Nat) : Magnitude :=
  let fraction := bits % (1 <<< format.fractionBits)
  let field := (bits >>> format.fractionBits) % (1 <<< format.exponentBits)
  if field = format.topField then
    if fraction = 0 then .infinite else .nan
  else if field = 0 then
    .finite fraction format.leastExponent false
  else
    .finite ((1 <<< format.fractionBits) + fraction) (format.leastExponent + (field - 1))
      (fraction == 0 && 1 < field)

end FloatFormat

/-- A power of ten with a natural exponent. -/
def powerOfTen (exponent : Nat) : Nat := Nat.pow 10 exponent

/-- A decimal `coefficient * 10 ^ exponent`. -/
structure Decimal where
  coefficient : Nat
  exponent : Int
deriving Repr, DecidableEq

/-- A positive value with the interval of reals that round to it, all as numerators over one
denominator. -/
structure Rounding where
  low : Nat
  value : Nat
  high : Nat
  denominator : Nat
  closed : Bool
deriving Repr, DecidableEq

namespace Rounding

/-- The rounding interval of `significand * 2 ^ exponent`. It reaches halfway to each neighbour and
holds its ends exactly when the significand is even. -/
def around (significand : Nat) (exponent : Int) (closerBelow : Bool) : Rounding :=
  let scale := 1 <<< (exponent - 2).toNat
  { low := (4 * significand - if closerBelow then 1 else 2) * scale
    value := 4 * significand * scale
    high := (4 * significand + 2) * scale
    denominator := 1 <<< (2 - exponent).toNat
    closed := significand % 2 == 0 }

/-- A decimal and the interval on one scale: the decimal's numerator, and the factor that brings the
interval's numerators to it. -/
def numerators (rounding : Rounding) (decimal : Decimal) : Nat × Nat :=
  (decimal.coefficient * powerOfTen decimal.exponent.toNat * rounding.denominator,
    powerOfTen (-decimal.exponent).toNat)

/-- Whether a decimal lies in the interval. -/
def contains (rounding : Rounding) (decimal : Decimal) : Bool :=
  let (numerator, factor) := rounding.numerators decimal
  if rounding.closed then
    rounding.low * factor ≤ numerator && numerator ≤ rounding.high * factor
  else
    rounding.low * factor < numerator && numerator < rounding.high * factor

/-- How far a decimal is from the value. Distances of decimals of one exponent can be compared. -/
def distance (rounding : Rounding) (decimal : Decimal) : Nat :=
  let (numerator, factor) := rounding.numerators decimal
  (numerator - rounding.value * factor) + (rounding.value * factor - numerator)

/-- The greatest decimal of the given exponent that does not exceed the value. -/
def floor (rounding : Rounding) (exponent : Int) : Decimal :=
  { coefficient := rounding.value * powerOfTen (-exponent).toNat /
      (rounding.denominator * powerOfTen exponent.toNat)
    exponent }

/-- The decimal of the given exponent that lies in the interval, if any: of two the nearer, and at
equal distance the greater. -/
def nearest? (rounding : Rounding) (exponent : Int) : Option Decimal :=
  let below := rounding.floor exponent
  let above := { below with coefficient := below.coefficient + 1 }
  match rounding.contains below, rounding.contains above with
  | false, false => none
  | true, false => some below
  | false, true => some above
  | true, true =>
    some (if rounding.distance above ≤ rounding.distance below then above else below)

/-- The number of decimal digits of a natural number. -/
def digitCount (n : Nat) : Nat := (Nat.toDigits 10 n).length

/-- The exponent of the value's first decimal digit. -/
def leadingExponent (rounding : Rounding) : Int :=
  if rounding.denominator ≤ rounding.value then
    (digitCount (rounding.value / rounding.denominator) : Int) - 1
  else
    -(digitCount ((rounding.denominator - 1) / rounding.value) : Int)

/-- The decimal with the fewest digits in the interval, of at most `limit` digits. -/
def shortest? (rounding : Rounding) (limit : Nat) : Option Decimal :=
  (List.range limit).findSome? fun (extra : Nat) =>
    rounding.nearest? (rounding.leadingExponent - extra)

end Rounding

namespace Decimal

/-- More digits than this are never needed to tell two numbers of any supported format apart. -/
def digitLimit : Nat := 17

/-- A decimal of one digit may have been carried to ten: move the zero into the exponent. -/
def normalized (decimal : Decimal) : Decimal :=
  if decimal.coefficient = 10 then ⟨1, decimal.exponent + 1⟩ else decimal

/-- The shortest decimal that reads back as `significand * 2 ^ exponent`. -/
def shortest (significand : Nat) (exponent : Int) (closerBelow : Bool) : Decimal :=
  let rounding := Rounding.around significand exponent closerBelow
  match rounding.shortest? digitLimit with
  | some decimal => decimal.normalized
  | none => rounding.floor (rounding.leadingExponent - digitLimit)

end Decimal

end StackFlow
