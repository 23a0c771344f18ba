import SciCalc.Tree.Builder

/-!
# Trees as bracketed infix

Every operator stands in parentheses with its operands, so the text can be read without precedences.
Numbers are written so that they can be read as tokens: without an exponent, a sign in parentheses.
-/

namespace SciCalc.Tree

/-- A number with all its digits. The shortest text serves unless it holds an exponent. -/
def printNumber (x : Float) : String :=
  let text := Decimal.plainText x
  let text := if x.isFinite && !text.toList.contains 'e' then text else Decimal.positionalText x
  if Decimal.isNegative x && !x.isNaN then s!"({text})" else text

def printUnary : UnaryOperator → String → String
  | .neg, operand => s!"(-{operand})"
  | .percent, operand => s!"({operand}%)"

def printBinary (op : BinaryOperator) (left right : String) : String := s!"({left}{(Operator.binary op).symbol}{right})"

def printApply (f : UnaryFunction) (argument : String) : String := s!"{f.name}({argument})"

def printPower (base exponent : String) : String := s!"{Function.power.name}({base},{exponent})"

/-- The text of the tree, however deep the tree is. -/
def print : Tree → String
  | number x => printNumber x
  | unary op operand => printUnary op operand.print
  | binary op left right => printBinary op left.print right.print
  | apply f argument => printApply f argument.print
  | power base exponent => printPower base.print exponent.print

end SciCalc.Tree
