import SciCalc.Sheet.Basic

/-!
# Printed sheets

A sheet is printed in columns of equal width, aligned to the right. The numbers of a column are all printed
in one notation with the same number of places.
-/

namespace SciCalc.Sheet

open Decimal

/-- Tabs and line ends are escaped, so that a row is one line. -/
def escape (c : Char) : List Char :=
  if c = '\t' then ['\\', 't'] else if c = '\r' then ['\\', 'r'] else if c = '\n' then ['\\', 'n'] else [c]

/-- A cell of a column of texts. -/
def cellText (cell : Scalar) : List Char :=
  match cell with
  | .absent => ['N', 'o', 'n', 'e']
  | .text s => s.toList.flatMap escape
  | cell => if cell.isMissing then ['N', 'a', 'N'] else cell.display.toList

/-- The value of a cell of a column of numbers. -/
def cellValue : Scalar → Float
  | .number x => x
  | _ => 0.0 / 0.0

/-- Numbers are printed with six places at first. -/
def places : Nat := 6

/-- A number with a given notation. -/
def number (write : Float → String) (x : Float) : List Char :=
  if x.isNaN then ['N', 'a', 'N'] else (write x).toList

def trailingZeros (s : List Char) : Nat := (s.reverse.takeWhile (· == '0')).length

/-- Numbers with as many places as they need together, but at least one. -/
def fixedNumbers (values : List Float) : List (List Char) :=
  let numbers := (values.filter (!·.isNaN)).map fun x => trailingZeros (fixedText places x).toList
  let spare := numbers.foldl min (places - 1)
  values.map fun x =>
    let text := number (fixedText places) x
    if x.isNaN then text else text.take (text.length - spare)

/-- All places would be zero although the number is not. -/
def isSmall (x : Float) : Bool := 0 < x.abs && x.abs < 1e-6

def isLarge (x : Float) : Bool := 1e6 < x.abs

/-- The texts of a column of numbers: with an exponent if some number would vanish otherwise, or if a large
one would take more than twelve characters. -/
def numberTexts (values : List Float) : List (List Char) :=
  let fixed := fixedNumbers values
  if values.any isSmall || (fixed.any (places + 6 < ·.length) && values.any isLarge) then
    values.map (number (scientificText places))
  else fixed

/-- A column with its name on top. The name of a column of numbers has a blank in front, as if for a sign. -/
def columnTexts (numeric : Bool) (name : String) (cells : List Scalar) : List (List Char) :=
  let name := name.toList.flatMap escape
  if numeric then (' ' :: name) :: numberTexts (cells.map cellValue) else name :: cells.map cellText

/-- Blanks before the texts, so that all have the same length. -/
def alignRight (texts : List (List Char)) : List (List Char) :=
  let width := texts.foldl (fun width text => max width text.length) 0
  texts.map fun text => List.replicate (width - text.length) ' ' ++ text

/-- Puts a column to the right of the lines. -/
def beside (lines column : List (List Char)) : List (List Char) :=
  lines.zipWith (fun line text => line ++ ' ' :: text) column

/-- At most a hundred names are listed. -/
def nameList (names : List String) : String :=
  let shown := ", ".intercalate (names.take 100)
  if 100 < names.length then shown ++ ", ..." else shown

/-- The printed sheet. The named columns hold numbers, all others hold texts. -/
def print (numeric : List String) (sheet : Sheet) : String :=
  if sheet.rows.isEmpty then s!"Empty DataFrame\nColumns: [{nameList sheet.columns}]\nIndex: []"
  else
    let columns := sheet.columns.zipIdx.map fun (name, index) =>
      alignRight (columnTexts (numeric.contains name) name (sheet.cells index))
    match columns with
    | [] => ""
    | first :: rest => String.ofList (['\n'].intercalate (rest.foldl beside first))

end SciCalc.Sheet
