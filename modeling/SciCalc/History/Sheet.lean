import SciCalc.History.Basic
import SciCalc.Sheet.Basic

/-!
# Histories as sheets

A history exported to a sheet has one row per entry. Its expressions may be any values, and a column keeps
numbers of one kind only.
-/

namespace SciCalc

namespace Sheet

/-- The whole numbers of a column of numbers, as far as no cell is missing, fit into one kind of machine word. -/
def fitsWord (numbers : List Int) : Bool :=
  numbers.all (fun n => -9223372036854775808 ≤ n && n ≤ 18446744073709551615) &&
    !(numbers.any (· < 0) && numbers.any (9223372036854775807 < ·))

def wholeNumber? : Scalar → Option Int
  | .integer n => some n
  | _ => none

def isNumeric : Scalar → Bool
  | .integer _ | .number _ => true
  | _ => false

/-- The cell among fractional numbers. -/
def asFraction : Scalar → Scalar
  | .absent => .blank
  | .integer n => .number (Float.ofInt n)
  | cell => cell

/-- Whole numbers beside missing cells or fractional numbers become fractional, unless the column also holds
other values or whole numbers that are too big. -/
def numberColumn (cells : List Scalar) : List Scalar :=
  let leading := cells.takeWhile fun cell => match cell with
    | .absent => false
    | _ => true
  let mixed := cells.any isNumeric && cells.any (wholeNumber? · |>.isNone)
  if mixed && cells.all (fun cell => isNumeric cell || cell.isMissing) &&
      fitsWord (leading.filterMap wholeNumber?) then cells.map asFraction
  else cells

end Sheet

/-- The entries as a sheet, newest first. -/
def History.sheet (history : History) : Sheet where
  columns := ["expression", "result"]
  rows := (Sheet.numberColumn (history.entries.map (·.expression))).zipWith
    (fun expression entry => [expression, .text entry.result]) history.entries

end SciCalc
