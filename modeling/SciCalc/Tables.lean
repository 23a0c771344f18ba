import SciCalc.Function
import SciCalc.Operator

/-!
# Tables of names

What the symbols and identifiers of an expression stand for, whatever the rules behind them are called themselves.
Identifiers are looked up in lower case; of several entries for one name the last counts.
-/

namespace SciCalc

structure Tables where
  operators : List (String × OperatorRule)
  functions : List (String × FunctionRule)
  constants : List (String × Float)

namespace Tables

def standardOperators : List (String × OperatorRule) := Operator.all.map fun op => (op.symbol, op.rule)

def standardFunctions : List (String × FunctionRule) := Function.all.map fun f => (f.name, f.rule)

def standardConstants : List (String × Float) := [("pi", AngleUnit.pi), ("e", 2.718281828459045)]

/-- The names of the calculator. -/
def standard : Tables := ⟨standardOperators, standardFunctions, standardConstants⟩

def operator? (tables : Tables) (symbol : String) : Option OperatorRule :=
  tables.operators.reverse.lookup symbol

def function? (tables : Tables) (identifier : String) : Option FunctionRule :=
  tables.functions.reverse.lookup (Text.lower identifier)

def constant? (tables : Tables) (identifier : String) : Option Float :=
  tables.constants.reverse.lookup (Text.lower identifier)

end Tables

end SciCalc
