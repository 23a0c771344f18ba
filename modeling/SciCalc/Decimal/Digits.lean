import SciCalc.Decimal.Magnitude

/-!
# Decimal digits of a magnitude

`Digits.shortest` gives the fewest digits that read back to a magnitude and, of these, the nearest
to it. `Digits.significant` rounds a magnitude to a number of significant digits, ties to even.
`Digits.toFloat` reads digits: the result is the nearest binary64 value.
-/

namespace SciCalc.Decimal

/-- The decimal `digits * 10 ^ exponent`. -/
structure Digits where
  digits : Nat
  exponent : Int
deriving DecidableEq, Repr

def tenTo (exponent : Nat) : Nat := Nat.pow 10 exponent

/-- The decimal digits of a natural number, most significant first. -/
def numeral (n : Nat) : List Char := Nat.toDigits 10 n

/-- The least `k` with `x < 10 ^ k`, for a magnitude that is not zero. -/
def Magnitude.decimalScale (x : Magnitude) : Int :=
  -- every positive magnitude is above `10 ^ -400`, so the scaled quotient is positive
  (numeral (x.units * tenTo 400 / unitsPerOne)).length - 400

namespace Digits

/-- The decimal as a quotient of naturals. -/
def toRatio (d : Digits) : Nat × Nat := (d.digits * tenTo d.exponent.toNat, tenTo (-d.exponent).toNat)

/-- The decimal compared with `quarters` quarter units. -/
def compareQuarters (d : Digits) (quarters : Nat) : Ordering :=
  compare (d.toRatio.1 * (4 * Magnitude.unitsPerOne)) (quarters * d.toRatio.2)

/--
The decimal reads back to `x`: it lies between the midpoints to the neighbours of `x`, the midpoints
included when the significand is even.
-/
def readsBack (d : Digits) (x : Magnitude) : Bool :=
  let gap := twoTo x.shift
  let low := d.compareQuarters (4 * x.units - if x.narrowBelow then gap else 2 * gap)
  let high := d.compareQuarters (4 * x.units + 2 * gap)
  let ends := x.significand % 2 == 0
  (low == .gt || (ends && low == .eq)) && (high == .lt || (ends && high == .eq))

/-- The magnitude in steps of `10 ^ exponent`, as a quotient of naturals. -/
def steps (x : Magnitude) (exponent : Int) : Nat × Nat :=
  (x.units * tenTo (-exponent).toNat, Magnitude.unitsPerOne * tenTo exponent.toNat)

/-- The decimal to take of one below a magnitude and one above it, given which of them read back to it. -/
def pick? (nearest below above : Digits) : Bool → Bool → Option Digits
  | true, true => some nearest
  | true, false => some below
  | false, true => some above
  | false, false => none

/-- Of the two decimals next to `x` with the given exponent, the nearest that reads back to `x`. -/
def nearestAt? (x : Magnitude) (exponent : Int) : Option Digits :=
  let quotient := steps x exponent
  let below : Digits := ⟨quotient.1 / quotient.2, exponent⟩
  let above : Digits := ⟨quotient.1 / quotient.2 + 1, exponent⟩
  pick? ⟨roundDiv quotient.1 quotient.2, exponent⟩ below above (below.readsBack x) (above.readsBack x)

/-- Moves trailing zeros of the digits into the exponent. -/
def trim (d : Digits) : Digits :=
  let zeros := ((numeral d.digits).reverse.takeWhile (· == '0')).length
  if d.digits = 0 then ⟨0, 0⟩ else ⟨d.digits / tenTo zeros, d.exponent + zeros⟩

/-- The exact decimal of a magnitude: a unit is `5 ^ 1074` in the last of 1074 places. -/
def exact (x : Magnitude) : Digits := ⟨x.units * Nat.pow 5 1074, -1074⟩

/-- The fewest digits that read back to `x`; of several such decimals the nearest to `x`, a tie going to
the even one. Seventeen digits always suffice. -/
def shortest (x : Magnitude) : Digits :=
  if x.significand = 0 then ⟨0, 0⟩
  else
    let scale := x.decimalScale
    let found := (List.range 17).findSome? fun (count : Nat) =>
      nearestAt? x (scale - (count + 1))
    (found.getD (exact x)).trim

/-- Rounds `x` to `count` significant digits, ties to even. The digits are `count` many, also after a
carry into a new leading digit. -/
def significant (x : Magnitude) (count : Nat) : Digits :=
  let exponent := x.decimalScale - count
  let (num, den) := steps x exponent
  let rounded := roundDiv num den
  if rounded = tenTo count then ⟨tenTo (count - 1), exponent + 1⟩ else ⟨rounded, exponent⟩

/-- The bits of the magnitude nearest to the decimal. A decimal beyond `10 ^ 400` is infinite and one
below `10 ^ -400` is zero whatever its digits are. -/
def nearestBits (d : Digits) : Nat :=
  let scale := (numeral d.digits).length + d.exponent
  if d.digits = 0 || scale < -400 then 0
  else if 400 < scale then Magnitude.infinityBits
  else Magnitude.nearestBits d.toRatio.1 d.toRatio.2

/-- The nearest binary64 value. -/
def toFloat (negative : Bool) (d : Digits) : Float := ofSignAndBits negative d.nearestBits

end Digits

end SciCalc.Decimal
