import SciCalc.Calculator
import SciCalc.Csv.Sheet
import SciCalc.Csv.Writer

/-!
# Batches

A batch is a sheet with one expression a row. Its outcomes are added as columns; an expression at fault is
counted and does not stop the batch.
-/

namespace SciCalc.Batch

/-- The column of expressions, unless another one is named. -/
def standardColumn : String := "expression"

def resultColumn : String := "result"
def shownColumn : String := "formatted"
def messageColumn : String := "error"
def kindColumn : String := "error_kind"

def expressionColumn (name : String) : String := if name.isEmpty then standardColumn else name

/-- The index of the column of expressions. -/
def expressionIndex (sheet : Sheet) (name : String) : Except Failure Nat :=
  match sheet.columnIndex? name with
  | some index => .ok index
  | none => .error (.missingExpressionColumn name)

/-- The cell holds an expression. -/
def hasExpression (index : Nat) (row : List Scalar) : Bool := (row.getD index .absent).isWords

/-- The sheet in a comma separated text without the rows that have no expression. -/
def load (text column : String) : Except Failure (Sheet × List Notice) := do
  let sheet ← match Csv.read text with
    | .ok sheet => pure sheet
    | .error fault => throw (.csv fault)
  let index ← expressionIndex sheet (expressionColumn column)
  let rows := sheet.rows.filter (hasExpression index)
  let dropped := sheet.rows.length - rows.length
  let notices := if dropped = 0 then []
    else [⟨.warning, s!"Dropped {dropped} rows with empty expressions"⟩]
  return ({ sheet with rows := rows }, notices)

/-- The unit that a cell names; blank cells and cells that are no text name none. -/
def unitOf (cell : Scalar) : Scalar := if cell.isWords then cell else .absent

/-- The outcomes of the rows. A column may name the unit of each row. -/
def outcomes (calculator : Calculator) (sheet : Sheet) (column : String) (unitColumn : Option String) :
    Except Failure (List Outcome) := do
  let index ← expressionIndex sheet (expressionColumn column)
  let unitIndex ← unitColumn.mapM fun name =>
    match sheet.columnIndex? name with
    | some index => Except.ok index
    | none => .error (.missingAngleColumn name)
  sheet.rows.mapM fun row =>
    let unit := (unitIndex.map fun index => unitOf (row.getD index .absent)).getD .absent
    calculator.assess (row.getD index .absent) unit

def resultCell (outcome : Outcome) : Scalar := (outcome.shown?.map (.number ·.value)).getD .blank

def shownCell (outcome : Outcome) : Scalar := (outcome.shown?.map (.text ·.text)).getD .absent

def messageCell (outcome : Outcome) : Scalar := (outcome.fault?.map (.text ·.message)).getD .absent

def kindCell (outcome : Outcome) : Scalar := (outcome.fault?.map (.text ·.kind.name)).getD .absent

/-- The sheet with the outcomes of its rows. -/
def withOutcomes (sheet : Sheet) (outcomes : List Outcome) : Sheet :=
  (((sheet.set resultColumn (outcomes.map resultCell)).set shownColumn (outcomes.map shownCell)).set
    messageColumn (outcomes.map messageCell)).set kindColumn (outcomes.map kindCell)

def notices (outcomes : List Outcome) : List Notice := outcomes.flatMap Outcome.notices

/-- The number of outcomes, and those at fault by kind. -/
structure Summary where
  total : Nat
  ok : Nat
  failed : Nat
  /-- In the order of the names of the kinds. -/
  byKind : List (String × Nat)
deriving DecidableEq, Repr

def summarize (outcomes : List Outcome) : Summary :=
  let kinds := outcomes.filterMap fun outcome => outcome.fault?.map (·.kind.name)
  let names := kinds.eraseDups.mergeSort (· ≤ ·)
  { total := outcomes.length
    ok := outcomes.length - kinds.length
    failed := kinds.length
    byKind := names.map fun name => (name, kinds.count name) }

end SciCalc.Batch
