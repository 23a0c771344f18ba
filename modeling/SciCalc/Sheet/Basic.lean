import SciCalc.Scalar
import SciCalc.Text.Blank

/-!
# Sheets

A sheet has named columns and rows of cells. A cell that a file left empty is not a number; a cell that a
computation left empty is absent.
-/

namespace SciCalc

/-- Every row has one cell for each column. -/
structure Sheet where
  columns : List String
  rows : List (List Scalar)

/-- Not a number: what stands in an empty cell of a file or of a column of numbers. -/
def Scalar.blank : Scalar := .number (0.0 / 0.0)

/-- There is nothing in the cell. -/
def Scalar.isMissing : Scalar → Bool
  | absent => true
  | number x => x.isNaN
  | _ => false

/-- The cell holds a text that is more than blanks. -/
def Scalar.isWords : Scalar → Bool
  | text s => s.toList.any (!Text.isBlank ·)
  | _ => false

namespace Sheet

def columnIndex? (sheet : Sheet) (name : String) : Option Nat := sheet.columns.idxOf? name

/-- The cells of the column at an index. -/
def cells (sheet : Sheet) (index : Nat) : List Scalar := sheet.rows.map (·.getD index .absent)

/-- Puts a column of cells in the place of the column of that name, or behind the last one. -/
def set (sheet : Sheet) (name : String) (cells : List Scalar) : Sheet :=
  match sheet.columnIndex? name with
  | some index => { sheet with rows := sheet.rows.zipWith (fun row cell => row.set index cell) cells }
  | none => {
      columns := sheet.columns ++ [name]
      rows := sheet.rows.zipWith (fun row cell => row ++ [cell]) cells }

end Sheet

end SciCalc
