import SciCalc.Decimal.Digits

/-!
# Layout of decimals

A `Layout` says which decimals are written positionally and how an exponent is written. `plain` is the
layout of values that have to be read back; `positional` and `scientific` lay out given digits.
-/

namespace SciCalc.Decimal

/-- The decisions of a number format. -/
structure Layout where
  /-- The least exponent of the leading digit that is written positionally. -/
  positionalFrom : Int
  /-- The exponent of the leading digit from which numbers are written with an exponent. -/
  positionalBelow : Int
  /-- A whole number keeps a zero behind the point. -/
  pointZero : Bool
  /-- An exponent that is not negative is written with a plus sign. -/
  exponentPlus : Bool
  /-- The least number of digits of the exponent. -/
  exponentWidth : Nat

/-- Zeros before the digits, so that they are at least `width` many. -/
def padZeros (width : Nat) (digits : List Char) : List Char :=
  List.replicate (width - digits.length) '0' ++ digits

/-- The power of ten of the leading digit. -/
def Digits.leading (d : Digits) : Int := (numeral d.digits).length + d.exponent - 1

namespace Layout

/-- Digits with the point in its place. -/
def positional (layout : Layout) (d : Digits) : List Char :=
  if 0 ≤ d.exponent then
    let whole := if d.digits = 0 then ['0'] else numeral d.digits ++ List.replicate d.exponent.toNat '0'
    if layout.pointZero then whole ++ ['.', '0'] else whole
  else
    let places := (-d.exponent).toNat
    let digits := padZeros (places + 1) (numeral d.digits)
    digits.take (digits.length - places) ++ '.' :: digits.drop (digits.length - places)

/-- An exponent with its sign. -/
def exponentText (layout : Layout) (exponent : Int) : List Char :=
  let digits := padZeros layout.exponentWidth (numeral exponent.natAbs)
  if exponent < 0 then '-' :: digits else if layout.exponentPlus then '+' :: digits else digits

/-- One digit, the others behind a point, and the exponent. -/
def scientific (layout : Layout) (d : Digits) : List Char :=
  let mantissa := match numeral d.digits with
    | first :: second :: rest => first :: '.' :: second :: rest
    | digits => digits
  mantissa ++ 'e' :: layout.exponentText d.leading

def isPositional (layout : Layout) (d : Digits) : Bool :=
  layout.positionalFrom ≤ d.leading && d.leading < layout.positionalBelow

/-- The digits in the notation that their magnitude asks for. -/
def write (layout : Layout) (d : Digits) : List Char :=
  if layout.isPositional d then layout.positional d else layout.scientific d

/-- The sign and what is written behind it. -/
def signed (negative : Bool) (text : List Char) : List Char := if negative then '-' :: text else text

end Layout

/-- Values are written with the fewest digits that identify them: positionally from `10 ^ -4` and below
`10 ^ 16`, otherwise with a signed exponent of at least two digits. -/
def plain : Layout where
  positionalFrom := -4
  positionalBelow := 16
  pointZero := true
  exponentPlus := true
  exponentWidth := 2

/-- The shortest text that reads back to the value. -/
def plainText (x : Float) : String :=
  if x.isNaN then "nan"
  else
    let text := if x.isInf then ['i', 'n', 'f'] else plain.write (.shortest (magnitude x))
    String.ofList (Layout.signed (isNegative x) text)

/-- The shortest digits that read back to the value, always positional, without a point behind a whole number. -/
def positionalText (x : Float) : String :=
  if x.isNaN then "nan"
  else
    let layout : Layout := { plain with pointZero := false }
    let text := if x.isInf then ['i', 'n', 'f'] else layout.positional (.shortest (magnitude x))
    String.ofList (Layout.signed (isNegative x) text)

/-- A fixed number of places, rounded from the exact value, ties to even. -/
def fixedText (places : Nat) (x : Float) : String :=
  let (num, den) := Digits.steps (magnitude x) (-places)
  String.ofList (Layout.signed (isNegative x) (plain.positional ⟨roundDiv num den, -places⟩))

/-- One digit before the point, `places` behind it, and an exponent. -/
def scientificText (places : Nat) (x : Float) : String :=
  let digits := magnitude x
  let text := if digits.significand = 0 then
      '0' :: '.' :: List.replicate places '0' ++ 'e' :: plain.exponentText 0
    else plain.scientific (.significant digits (places + 1))
  String.ofList (Layout.signed (isNegative x) text)

end SciCalc.Decimal
