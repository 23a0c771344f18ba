import SciCalc.Decimal.Layout
import SciCalc.Settings

/-!
# Displayed values

A value is rounded to a number of significant digits and shown without needless zeros. Very small and very
large values are shown with an exponent.
-/

namespace SciCalc.Display

open Decimal

/-- No value has more significant digits than this. -/
def mostDigits : Nat := 767

/-- The number of digits that a precision asks for. -/
def digitCount (precision : Int) : Except Failure Nat :=
  if precision < 0 then .error .negativePrecision
  else if 0x8000000000000000 ≤ precision then .error .precisionUnreadable
  else if 0x80000000 ≤ precision then .error .precisionTooBig
  else .ok (min precision.toNat mostDigits)

/-- The value nearest to the significant digits of a value; zeros and values that are not finite stay. -/
def rounded (precision : Int) (x : Float) : Except Failure Float :=
  if x == 0 || !x.isFinite then .ok x
  else do
    let count ← digitCount (Settings.orStandard precision Settings.standard.precision)
    return (Digits.significant (magnitude x) count).toFloat (isNegative x)

/-- Displayed exponents have no plus sign and no leading zeros. -/
def layout : Layout := { Decimal.plain with pointZero := false, exponentPlus := false, exponentWidth := 1 }

/-- Below `1e-9` and from `1e15` on, values are shown with an exponent. -/
def needsExponent (x : Float) : Bool := x.abs < 1e-9 || 1e15 ≤ x.abs

/-- A value with an exponent; infinity has none. -/
def scientificText (precision : Int) (x : Float) : Except Failure String := do
  -- the digits behind the first one are asked for, so the count may be one short of the limit
  let places ← digitCount (precision - 1)
  if x.isInf then throw .noExponent
  let digits := (Digits.significant (magnitude x) (places + 1)).trim
  return String.ofList (Layout.signed (isNegative x) (layout.scientific digits))

/-- The displayed text: values below the threshold are shown as zero, and zero has no sign. -/
def text (precision : Int) (zeroThreshold : Float) (x : Float) : Except Failure String := do
  if x.abs < zeroThreshold then return "0"
  let value ← rounded precision x
  if value == 0 then return "0"
  if needsExponent value then
    scientificText (Settings.orStandard precision Settings.standard.precision) value
  else return positionalText value

end SciCalc.Display
