import SciCalc.Postfix.Machine
import SciCalc.Postfix.Parser
import SciCalc.Token.Lexer
import SciCalc.Tree.CallStack

/-!
# Expressions

An expression is a text. Compiling it gives its postfix form, evaluating it a finite value. The value on the
stack can be checked against that of the expression's tree, and a postfix form can be written as infix again.
-/

namespace SciCalc.Expression

/-- The postfix form of a text; a text without tokens is a fault. -/
def compile (text : String) : Except Failure (List Postfix) := do
  let tokens ← Token.lex text
  if tokens.isEmpty then throw (.fault .emptyExpression)
  Postfix.ofTokens .standard tokens

/-- The finite value of a text. -/
def evaluate (text : String) (unit : AngleUnit) : Except Failure Float := do
  let elements ← compile text
  Postfix.finiteValue unit elements

/-- The finite value of a text for a unit that is only named: faults of the text come first. -/
def evaluateIn (text : String) (unit : Scalar) : Except Failure Float := do
  let elements ← compile text
  let unit ← AngleUnit.ofScalar unit
  Postfix.finiteValue unit elements

/-- Two values agree if they are equal, or if they differ by at most `tolerance` times the second one. -/
def close (tolerance x y : Float) : Bool :=
  ((x - y).abs ≤ tolerance * y.abs && y.isFinite) || x == y

/-- The value on the stack of numbers agrees with the value of the tree. An expression without a finite value does
not. -/
def consistent (stack : CallStack) (text : String) (unit : Scalar) (tolerance : Float) : Except Failure Bool := do
  let elements ← compile text
  let unit ← AngleUnit.ofScalar unit
  match Postfix.finiteValue unit elements with
  | .error _ => return false
  | .ok value =>
    let tree ← Tree.ofPostfix elements
    return close tolerance value (← stack.evaluate unit tree)

/-- A postfix form as bracketed infix. -/
def infixText (stack : CallStack) (elements : List Postfix) : Except Failure String := do
  stack.print (← Tree.ofPostfix elements)

end SciCalc.Expression
