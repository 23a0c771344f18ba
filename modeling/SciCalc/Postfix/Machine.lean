import SciCalc.Function
import SciCalc.Operator
import SciCalc.Postfix.Basic

/-!
# Evaluating on a stack

A literal is put on the stack; an operator or function takes its operands from the stack and leaves its
value there.
-/

namespace SciCalc.Postfix

/-- Applies an operator to the top of the stack. -/
def applyOperator (symbol : String) (stack : List Float) : Except Fault (List Float) :=
  match Operator.ofSymbol? symbol with
  | none => .error (.unknownOperator symbol)
  | some op =>
    match op, stack with
    | .unary op, x :: rest => .ok (op.apply x :: rest)
    | .binary op, y :: x :: rest => return (← op.apply x y) :: rest
    | _, _ => .error (.stackUnderflow symbol op.arity stack.length)

/-- Applies a function to the top of the stack. A call that does not tell its arguments takes what the
function needs. -/
def applyFunction (unit : AngleUnit) (name : String) (argc : Option Int) (stack : List Float) :
    Except Fault (List Float) :=
  match Function.ofName? name with
  | none => .error (.unknownFunction name)
  | some f =>
    let written := argc.getD f.arity
    if written != f.arity then .error (.arityMismatch name f.arity (some written))
    else
      match f, stack with
      | .unary f, x :: rest => return (← f.apply unit x) :: rest
      | .power, y :: x :: rest => return (← BinaryOperator.pow.apply x y) :: rest
      | _, _ => .error (.arityMismatch name f.arity (some stack.length))

/-- Runs one element. -/
def step (unit : AngleUnit) (stack : List Float) : Postfix → Except Fault (List Float)
  | literal x => .ok (x :: stack)
  | operator symbol => applyOperator symbol stack
  | call name argc => applyFunction unit name argc stack
  | mark name => .error (.unknownOperator name)

def run (unit : AngleUnit) (stack : List Float) (elements : List Postfix) : Except Fault (List Float) :=
  elements.foldlM (step unit) stack

/-- The only value that is left, whether finite or not. -/
def evaluate (unit : AngleUnit) (elements : List Postfix) : Except Fault Float := do
  match ← run unit [] elements with
  | [value] => return value
  | stack => throw (.malformed stack.length)

/-- The value, which has to be finite. -/
def finiteValue (unit : AngleUnit) (elements : List Postfix) : Except Fault Float := do
  let value ← evaluate unit elements
  if value.isFinite then return value else throw (.nonFinite value)

end SciCalc.Postfix
