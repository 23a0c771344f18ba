import SciCalc.Fault

/-!
# Operators

The operators of expressions: what they compute, their symbols and how tightly they bind.
-/

namespace SciCalc

inductive UnaryOperator where
  | neg
  | percent
deriving DecidableEq, Repr

inductive BinaryOperator where
  | add
  | sub
  | mul
  | div
  | pow
deriving DecidableEq, Repr

inductive Operator where
  | unary (op : UnaryOperator)
  | binary (op : BinaryOperator)
deriving DecidableEq, Repr

/-- Percent is a division by a hundred. -/
def UnaryOperator.apply : UnaryOperator → Float → Float
  | neg, x => -x
  | percent, x => x / 100

/-- Only a divisor equal to zero is a fault; overflow and invalid powers give infinities and NaN. -/
def BinaryOperator.apply : BinaryOperator → Float → Float → Except Fault Float
  | add, x, y => .ok (x + y)
  | sub, x, y => .ok (x - y)
  | mul, x, y => .ok (x * y)
  | div, x, y => if y == 0 then .error .divisionByZero else .ok (x / y)
  | pow, x, y => .ok (x.pow y)

inductive Associativity where
  | left
  | right
deriving DecidableEq, Repr

def Associativity.name : Associativity → String
  | left => "left"
  | right => "right"

/-- How an operator is written and how tightly it binds; a greater precedence binds tighter. -/
structure OperatorRule where
  symbol : String
  name : String
  precedence : Int
  associativity : Associativity
  arity : Int
  /-- A unary operator written before its operand; the others are written behind it. -/
  isPrefix : Bool
deriving DecidableEq, Repr

namespace OperatorRule

/-- An operator on the stack takes its operands before `incoming` is put on top of it. -/
def precedes (top incoming : OperatorRule) : Bool :=
  -- nothing stands before the operator that is written first
  if incoming.isPrefix then false
  -- a prefix operator waits for an operator that groups to the right: -3^2 is -(3^2)
  else if top.isPrefix && incoming.arity == 2 && incoming.associativity == .right then false
  else top.precedence > incoming.precedence
    || (top.precedence == incoming.precedence && incoming.associativity == .left)

/-- The rule as it is shown to a reader. -/
def describe (rule : OperatorRule) : String :=
  s!"OperatorSpec({Text.quoted rule.symbol}, prec={rule.precedence}, {rule.associativity.name}, arity={rule.arity})"

end OperatorRule

namespace Operator

def all : List Operator :=
  [.binary .add, .binary .sub, .binary .mul, .binary .div, .binary .pow, .unary .neg, .unary .percent]

/-- The sign of the prefix minus behind its operand. -/
def negSymbol : String := "u-"

def symbol : Operator → String
  | binary .add => "+"
  | binary .sub => "-"
  | binary .mul => "*"
  | binary .div => "/"
  | binary .pow => "^"
  | unary .neg => negSymbol
  | unary .percent => "%"

def name : Operator → String
  | binary .add => "add"
  | binary .sub => "sub"
  | binary .mul => "mul"
  | binary .div => "div"
  | binary .pow => "pow"
  | unary .neg => "neg"
  | unary .percent => "percent"

def arity : Operator → Nat
  | unary _ => 1
  | binary _ => 2

def precedence : Operator → Int
  | binary .add | binary .sub => 2
  | binary .mul | binary .div => 3
  | binary .pow => 4
  | unary .neg => 5
  | unary .percent => 6

def rule (op : Operator) : OperatorRule where
  symbol := op.symbol
  name := op.name
  precedence := op.precedence
  associativity := if op = binary .pow || op = unary .neg then .right else .left
  arity := op.arity
  isPrefix := op = unary .neg

def ofSymbol? (symbol : String) : Option Operator := all.find? fun op => op.symbol == symbol

def ofName? (name : String) : Option Operator := all.find? fun op => op.name == name

end Operator

end SciCalc
