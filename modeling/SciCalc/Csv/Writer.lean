import SciCalc.Sheet.Basic

/-!
# Comma separated text from sheets

Fields are quoted only where they have to be. Numbers are written so that they read back.
-/

namespace SciCalc.Csv

/-- The text of a cell; a missing one is empty. -/
def cellText (cell : Scalar) : String := if cell.isMissing then "" else cell.display

/-- The field would not be read as one field without quotes. -/
def needsQuotes (field : List Char) : Bool :=
  field.any fun c => c = ',' || c = '"' || c = '\n' || c = '\r'

/-- A field, in quotes if need be; a quote inside quotes is doubled. -/
def writeField (field : List Char) : List Char :=
  if needsQuotes field then '"' :: field.flatMap (fun c => if c = '"' then ['"', '"'] else [c]) ++ ['"']
  else field

/-- A line of fields. A lone empty field is quoted, for its line would be blank otherwise. -/
def writeRecord (fields : List String) : List Char :=
  if fields = [""] then ['"', '"', '\n']
  else [','].intercalate (fields.map fun field => writeField field.toList) ++ ['\n']

def write (sheet : Sheet) : String :=
  String.ofList (writeRecord sheet.columns ++ sheet.rows.flatMap fun row => writeRecord (row.map cellText))

end SciCalc.Csv
