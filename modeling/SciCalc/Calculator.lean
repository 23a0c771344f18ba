import SciCalc.Display
import SciCalc.Expression
import SciCalc.History.Store
import SciCalc.Notice
import SciCalc.Spelling

/-!
# Calculators

A calculator evaluates what people enter: it respells the text, bounds its length, shows the value and
remembers it in the history of a session. A fault of an expression is an outcome like any other.
-/

namespace SciCalc

/-- A value and the text it is shown as. -/
structure ShownValue where
  value : Float
  text : String

/-- What became of an expression. -/
structure Outcome where
  expression : Scalar
  answer : Except Fault ShownValue

namespace Outcome

def isOk (outcome : Outcome) : Bool := outcome.answer.isOk

def shown? (outcome : Outcome) : Option ShownValue := outcome.answer.toOption

def fault? (outcome : Outcome) : Option Fault :=
  match outcome.answer with
  | .ok _ => none
  | .error fault => some fault

def describe (outcome : Outcome) : String :=
  let result := match outcome.answer with
    | .ok shown => s!" = {shown.text}"
    | .error fault => s!", {fault.kind.name}: {fault.message}"
  s!"CalculationResult({outcome.expression.cite}{result})"

/-- A rejected expression is worth a notice, which cites its first fifty characters. -/
def notices (outcome : Outcome) : List Notice :=
  match outcome.answer with
  | .ok _ => []
  | .error fault =>
    let start := Text.quoted (String.ofList (outcome.expression.display.toList.take 50))
    [⟨.warning, s!"Rejected expression {start}: {fault.kind.name}: {fault.message}"⟩]

end Outcome

structure Calculator where
  unit : AngleUnit
  /-- The number of significant digits that are shown. -/
  precision : Int
  maxLength : Int
  store : Store

namespace Calculator

/-- A calculator with an empty store. A unit and bounds that amount to nothing stand for the standard. -/
def create (unit : Scalar) (precision maxLength : Int) (store : Store) : Except Failure Calculator := do
  let unit ← AngleUnit.ofScalar (if unit.isNothing then .text Settings.standard.angleUnit else unit)
  return {
    unit := unit
    precision := Settings.orStandard precision Settings.standard.precision
    maxLength := Settings.orStandard maxLength Settings.standard.maxLength
    store := store }

/-- The unit that is asked for, or the calculator's own. -/
def unitFor (calculator : Calculator) : Scalar → Except Failure AngleUnit
  | .absent => .ok calculator.unit
  | unit => AngleUnit.ofScalar unit

/-- The finite value of what was entered. -/
def evaluate (calculator : Calculator) (entered unit : Scalar) : Except Failure Float := do
  let text := Spelling.ofScalar entered
  if text.isEmpty then throw (.fault .emptyExpression)
  if calculator.maxLength < text.length then
    throw (.fault (.inputTooLong text.length calculator.maxLength))
  let unit ← calculator.unitFor unit
  Expression.evaluate text unit

/-- The outcome of what was entered. -/
def assess (calculator : Calculator) (entered unit : Scalar) : Except Failure Outcome :=
  match calculator.evaluate entered unit with
  | .error (.fault fault) => .ok ⟨entered, .error fault⟩
  | .error failure => .error failure
  | .ok value => do
    let text ← Display.text calculator.precision Settings.standard.zeroThreshold value
    return ⟨entered, .ok ⟨value, text⟩⟩

/-- Remembers a successful outcome in the history of the session. -/
def record (calculator : Calculator) (session : String) (outcome : Outcome) :
    Except Failure Outcome × Calculator :=
  match outcome.shown? with
  | none => (.ok outcome, calculator)
  | some shown =>
    let (stored, store) := calculator.store.add session ⟨outcome.expression, shown.text⟩
    (stored.map fun _ => outcome, { calculator with store := store })

/-- The outcome of what was entered, remembered if there is a session. -/
def calculate (calculator : Calculator) (entered unit : Scalar) (session : Option String) :
    Except Failure Outcome × Calculator :=
  match calculator.assess entered unit, session with
  | .ok outcome, some session => calculator.record session outcome
  | answer, _ => (answer, calculator)

end Calculator

end SciCalc
