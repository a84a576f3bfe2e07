import StackFlow.Decimal.Shortest

/-!
# Text of floating-point constants

A floating-point constant is shown by the shortest decimal that reads back in its own precision.
Numbers whose first digit stands between the fourth decimal place and the sixteenth digit before the
point are written out with at least one decimal place, all others by a power of ten. Zeros keep
their sign, and infinities and values that are not numbers have names.
-/

namespace StackFlow

/-- How decimals are laid out. -/
structure DecimalLayout where
  /-- The least exponent of the first digit that is written out. -/
  leastPositional : Int
  /-- The greatest exponent of the first digit that is written out. -/
  greatestPositional : Int
  /-- What stands between the digits and the power of ten. -/
  exponentMark : String
  nan : String
  infinity : String

namespace DecimalLayout

/-- The layout of constants on the operand stack. -/
def constants : DecimalLayout where
  leastPositional := -4
  greatestPositional := 15
  exponentMark := "e"
  nan := "NaN"
  infinity := "inf"

/-- The digits written out around the point, the first of them at the given exponent. -/
def positional (digits : List Char) (leading : Int) : String :=
  if leading < 0 then
    "0." ++ String.ofList (List.replicate (-leading - 1).toNat '0' ++ digits)
  else
    let whole := digits.take (leading.toNat + 1)
    let zeros := List.replicate (leading.toNat + 1 - digits.length) '0'
    let fraction := digits.drop (leading.toNat + 1)
    String.ofList (whole ++ zeros) ++ "." ++
      String.ofList (if fraction.isEmpty then ['0'] else fraction)

/-- The digits with the point after the first one and a power of ten. -/
def scientific (layout : DecimalLayout) (digits : List Char) (leading : Int) : String :=
  let fraction := digits.drop 1
  String.ofList (digits.take 1) ++
    (if fraction.isEmpty then "" else "." ++ String.ofList fraction) ++
    layout.exponentMark ++ toString leading

/-- A positive decimal. -/
def decimal (layout : DecimalLayout) (decimal : Decimal) : String :=
  let digits := Nat.toDigits 10 decimal.coefficient
  let leading := decimal.exponent + (digits.length - 1)
  if layout.leastPositional ≤ leading ∧ leading ≤ layout.greatestPositional then
    positional digits leading
  else
    layout.scientific digits leading

/-- The number that a bit pattern of a format stands for. -/
def float (layout : DecimalLayout) (format : FloatFormat) (bits : Nat) : String :=
  let sign := if format.isNegative bits then "-" else ""
  match format.magnitude bits with
  | .nan => layout.nan
  | .infinite => sign ++ layout.infinity
  | .finite 0 _ _ => sign ++ positional ['0'] 0
  | .finite significand exponent closerBelow =>
    sign ++ layout.decimal (Decimal.shortest significand exponent closerBelow)

end DecimalLayout

/-- The text of a 32-bit floating-point constant. -/
def floatText (bits : UInt32) : String :=
  DecimalLayout.constants.float .single bits.toNat

/-- The text of a 64-bit floating-point constant. -/
def doubleText (bits : UInt64) : String :=
  DecimalLayout.constants.float .double bits.toNat

end StackFlow
