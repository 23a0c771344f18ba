import SciCalc.Angle

/-!
# Functions

The functions of expressions and what they compute. Trigonometric functions take angles in the unit in
use, their inverses give them in it.
-/

namespace SciCalc

inductive UnaryFunction where
  | sin
  | cos
  | tan
  | asin
  | acos
  | atan
  | sqrt
  | log
  | ln
  | abs
deriving DecidableEq, Repr

/-- A function of one argument, or the power of two arguments. -/
inductive Function where
  | unary (f : UnaryFunction)
  | power
deriving DecidableEq, Repr

namespace UnaryFunction

def name : UnaryFunction → String
  | sin => "sin"
  | cos => "cos"
  | tan => "tan"
  | asin => "asin"
  | acos => "acos"
  | atan => "atan"
  | sqrt => "sqrt"
  | log => "log"
  | ln => "ln"
  | abs => "abs"

/-- The value of the function. Roots of negative numbers and logarithms of numbers that are not positive
are faults; `log` is the logarithm to the base ten. -/
def apply (unit : AngleUnit) : UnaryFunction → Float → Except Fault Float
  | sin, x => .ok (unit.toRadians x).sin
  | cos, x => .ok (unit.toRadians x).cos
  | tan, x => .ok (unit.toRadians x).tan
  | asin, x => .ok (unit.ofRadians x.asin)
  | acos, x => .ok (unit.ofRadians x.acos)
  | atan, x => .ok (unit.ofRadians x.atan)
  | sqrt, x => if x < 0 then .error (.domain "sqrt" x) else .ok x.sqrt
  | log, x => if x ≤ 0 then .error (.domain "log" x) else .ok x.log10
  | ln, x => if x ≤ 0 then .error (.domain "ln" x) else .ok x.log
  | abs, x => .ok x.abs

end UnaryFunction

namespace Function

def all : List Function :=
  [.unary .sin, .unary .cos, .unary .tan, .unary .asin, .unary .acos, .unary .atan, .unary .sqrt,
    .unary .log, .unary .ln, .unary .abs, .power]

def name : Function → String
  | unary f => f.name
  | power => "pow"

def arity : Function → Nat
  | unary _ => 1
  | power => 2

def ofName? (name : String) : Option Function := all.find? fun f => f.name == name

end Function

/-- A function as the parser knows it. -/
structure FunctionRule where
  name : String
  arity : Int
deriving DecidableEq, Repr

/-- The rule as it is shown to a reader. -/
def FunctionRule.describe (rule : FunctionRule) : String :=
  s!"FunctionSpec({Text.quoted rule.name}, arity={rule.arity})"

def Function.rule (f : Function) : FunctionRule := ⟨f.name, f.arity⟩

end SciCalc
