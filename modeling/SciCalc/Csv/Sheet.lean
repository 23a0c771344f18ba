import SciCalc.Csv.Record
import SciCalc.Failure
import SciCalc.Sheet.Basic

/-!
# Sheets from comma separated text

The first record names the columns. Short rows are filled up, and a row that is longer than the rows before
it is a fault. If the first row is longer than the header, its columns in front have no name and are dropped.
-/

namespace SciCalc.Csv

/-- The first of `name.1`, `name.2`, … that is not among the names. -/
def freshName (names : List String) (name : String) : String :=
  let candidates := (List.range names.length).map fun (n : Nat) => s!"{name}.{n + 1}"
  (candidates.find? (!names.contains ·)).getD name

/-- Renames the column at an index if its name was settled before. Settled names come last first. -/
def settle (state : List String × List String) (index : Nat) : List String × List String :=
  let (names, settled) := state
  let name := names.getD index ""
  let name := if settled.contains name then freshName names name else name
  (names.set index name, name :: settled)

/-- The column names of a header: a column without a name is called by its index, and the repetitions of a
name are numbered. Names from the header take precedence over those made up here. -/
def columnNames (fields : List String) : List String :=
  let named := fields.zipIdx.map fun (field, index) => if field.isEmpty then s!"Unnamed: {index}" else field
  let indices := fields.zipIdx.partition fun (field, _) => !field.isEmpty
  ((indices.1 ++ indices.2).map Prod.snd |>.foldl settle (named, [])).1

/-- Fills a row up to the width; a longer one is a fault. -/
def fillRow (width : Nat) (record : Record) : Except CsvFault (List String) :=
  let found := record.fields.length
  if width < found then .error (.tooManyFields width record.line found)
  else .ok (record.fields ++ List.replicate (width - found) "")

/-- An empty field is a missing cell, quoted or not. -/
def cell (field : String) : Scalar := if field.isEmpty then .blank else .text field

/-- Drops the mark that a text may start with to tell its encoding. -/
def dropMark : List Char → List Char
  | '\uFEFF' :: text => text
  | text => text

/-- The sheet in a text. -/
def read (text : String) : Except CsvFault Sheet :=
  match records (dropMark text.toList) with
  | ([], some row) => .error (.openQuote row)
  | ([], none) => .error .noColumns
  | (header :: rest, openRow) => do
    let count := header.fields.length
    let width := max count ((rest.head?.map (·.fields.length)).getD 0)
    let rows ← rest.mapM (fillRow width)
    if let some row := openRow then throw (.openQuote row)
    return {
      columns := columnNames header.fields
      rows := rows.map fun fields => (fields.drop (width - count)).map cell }

end SciCalc.Csv
