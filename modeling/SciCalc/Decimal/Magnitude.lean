/-!
# Binary magnitudes

A finite binary64 magnitude is a whole number of units, one unit being the least positive value
`2 ^ -1074`. All exact arithmetic on values is done on that number of units.
-/

namespace SciCalc.Decimal

def twoTo (exponent : Nat) : Nat := Nat.pow 2 exponent

/-- How a division is rounded when the quotient lies exactly between two integers: to the even one. -/
def roundDiv (num den : Nat) : Nat :=
  let quotient := num / den
  match compare (2 * (num % den)) den with
  | .lt => quotient
  | .gt => quotient + 1
  | .eq => if quotient % 2 = 0 then quotient else quotient + 1

/-- The magnitude `significand * 2 ^ shift` units. -/
structure Magnitude where
  significand : Nat
  shift : Nat
deriving DecidableEq, Repr

namespace Magnitude

/-- The number of units in one. -/
def unitsPerOne : Nat := twoTo 1074

/-- The bits of infinity, one above those of the greatest finite magnitude. -/
def infinityBits : Nat := 0x7FF0000000000000

/-- Decodes the sixty-three lower bits of a finite value. -/
def ofBits (bits : Nat) : Magnitude :=
  let field := bits / twoTo 52 % twoTo 11
  let fraction := bits % twoTo 52
  if field = 0 then ⟨fraction, 0⟩ else ⟨twoTo 52 + fraction, field - 1⟩

/-- The whole number of units. -/
def units (x : Magnitude) : Nat := x.significand * twoTo x.shift

/-- The gap to the next smaller magnitude is half the gap to the next greater one. -/
def narrowBelow (x : Magnitude) : Bool := x.significand == twoTo 52 && x.shift != 0

/--
The bits of the magnitude nearest to `num / den`, an exact tie going to the even significand;
infinity beyond the greatest finite one. The significand has at most 53 bits, so the shift is the
excess of the number of units over 53 bits, and one more in the significand carries into it.
-/
def nearestBits (num den : Nat) : Nat :=
  let units := num * unitsPerOne / den
  let shift := if units = 0 then 0 else units.log2 - 52
  min (shift * twoTo 52 + roundDiv (num * unitsPerOne) (den * twoTo shift)) infinityBits

end Magnitude

/-- The sign bit is set; true of negative zero. -/
def isNegative (x : Float) : Bool := x.toBits.toNat / twoTo 63 = 1

/-- The magnitude of a finite value. -/
def magnitude (x : Float) : Magnitude := .ofBits (x.toBits.toNat % twoTo 63)

/-- The value with the given sign and magnitude bits. -/
def ofSignAndBits (negative : Bool) (bits : Nat) : Float :=
  .ofBits (.ofNat (if negative then twoTo 63 + bits else bits))

end SciCalc.Decimal
