import SciCalc.Function
import SciCalc.Operator
import SciCalc.Postfix.Basic

/-!
# Expression trees

A tree holds operators and functions with their operands. Its value is computed by recursion, its postfix
form lists it from the leaves to the root.
-/

namespace SciCalc

inductive Tree where
  | number (value : Float)
  | unary (op : UnaryOperator) (operand : Tree)
  | binary (op : BinaryOperator) (left right : Tree)
  | apply (f : UnaryFunction) (argument : Tree)
  | power (base exponent : Tree)

namespace Tree

/-- The value of the tree, whether finite or not and however deep the tree is. -/
def evaluate (unit : AngleUnit) : Tree → Except Fault Float
  | number x => .ok x
  | unary op operand => return op.apply (← operand.evaluate unit)
  | binary op left right => do
    let x ← left.evaluate unit
    let y ← right.evaluate unit
    op.apply x y
  | apply f argument => do f.apply unit (← argument.evaluate unit)
  | power base exponent => do
    let x ← base.evaluate unit
    let y ← exponent.evaluate unit
    BinaryOperator.pow.apply x y

/-- The postfix form: the operands in their order, then what is applied to them. -/
def toPostfix : Tree → List Postfix
  | number x => [.literal x]
  | unary op operand => operand.toPostfix ++ [.operator (Operator.unary op).symbol]
  | binary op left right =>
    left.toPostfix ++ right.toPostfix ++ [.operator (Operator.binary op).symbol]
  | apply f argument => argument.toPostfix ++ [.call f.name (some 1)]
  | power base exponent => base.toPostfix ++ exponent.toPostfix ++ [.call Function.power.name (some 2)]

end Tree

end SciCalc
