import SciCalc.Decimal.Digits
import SciCalc.Text.Blank
import SciCalc.Text.Digit

/-!
# Reading numbers

A written number may stand between blanks. It is a sign, digits with a point among or beside them and an
exponent, or one of the words for infinity and for "not a number". Digits may be of any script, and one
low line may stand between two digits.
-/

namespace SciCalc.Decimal

open Text

/-- Digits of every script in ASCII; any other character beyond ASCII spoils a number. -/
def plainDigit (c : Char) : Char :=
  if c.toNat < 0x7F then c
  else match digitValue? c with
    | some value => Nat.digitChar value
    | none => '?'

/-- Drops the low lines that stand between two digits. A low line elsewhere spoils the number. -/
def dropSeparators (afterDigit : Bool) : List Char → Option (List Char)
  | [] => some []
  | '_' :: rest =>
    match rest with
    | next :: _ => if afterDigit && next.isDigit then dropSeparators false rest else none
    | [] => none
  | c :: rest => (dropSeparators c.isDigit rest).map (c :: ·)

/-- The bare form of a written number: no blanks around it, ASCII digits, no separators. -/
def bareNumber? (s : List Char) : Option (List Char) :=
  dropSeparators false ((strip isNumberBlank s).map plainDigit)

/-- The value of ASCII digits. -/
def digitsValue (digits : List Char) : Nat :=
  digits.foldl (fun value c => 10 * value + (c.toNat - '0'.toNat)) 0

/-- Splits off a sign; `true` for minus. -/
def splitSign : List Char → Bool × List Char
  | '-' :: rest => (true, rest)
  | '+' :: rest => (false, rest)
  | s => (false, s)

/-- The exponent behind the digits, zero if there is nothing behind them. -/
def exponentPart? : List Char → Option Int
  | [] => some 0
  | c :: rest =>
    let (negative, digits) := splitSign rest
    if (c = 'e' || c = 'E') && !digits.isEmpty && digits.all Char.isDigit then
      some (if negative then -(digitsValue digits : Int) else digitsValue digits)
    else none

/-- Digits with an optional point and exponent; at least one digit stands before the exponent. -/
def unsigned? (s : List Char) : Option Digits :=
  let whole := s.takeWhile Char.isDigit
  let (fraction, rest) := match s.dropWhile Char.isDigit with
    | '.' :: tail => (tail.takeWhile Char.isDigit, tail.dropWhile Char.isDigit)
    | tail => ([], tail)
  if whole.isEmpty && fraction.isEmpty then none
  else (exponentPart? rest).map fun exponent =>
    ⟨digitsValue (whole ++ fraction), exponent - fraction.length⟩

/-- Reads a number. -/
def readFloat? (text : String) : Option Float := do
  let (negative, s) := splitSign (← bareNumber? text.toList)
  let word := s.map Char.toLower
  if word = "inf".toList || word = "infinity".toList then
    some (ofSignAndBits negative Magnitude.infinityBits)
  else if word = "nan".toList then some (0.0 / 0.0)
  else (unsigned? s).map (Digits.toFloat negative)

/-- A whole number with more digits, leading zeros included, is not read. -/
def digitLimit : Nat := 4300

/-- Reads a whole number: a sign and digits. -/
def readInt? (text : String) : Option Int := do
  let (negative, s) := splitSign (← bareNumber? text.toList)
  if !s.isEmpty && s.length ≤ digitLimit && s.all Char.isDigit then
    some (if negative then -(digitsValue s : Int) else digitsValue s)
  else none

end SciCalc.Decimal
