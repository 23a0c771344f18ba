import SciCalc.Decimal.Layout

/-!
# Postfix expressions

In postfix form every operator and function stands behind its operands, so neither precedence nor
parentheses are needed.
-/

namespace SciCalc

inductive Postfix where
  | literal (value : Float)
  /-- A call with the number of arguments that were written, if that is known. -/
  | call (name : String) (argc : Option Int)
  | operator (symbol : String)
  /-- A mark that stands for no value, operator or function. -/
  | mark (name : String)

namespace Postfix

/-- The same element; literals are compared as numbers. -/
def same : Postfix → Postfix → Bool
  | literal x, literal y => x == y
  | call f m, call g n => f == g && m == n
  | operator s, operator t => s == t
  | mark s, mark t => s == t
  | _, _ => false

/-- The same elements in the same order. -/
def sameAll : List Postfix → List Postfix → Bool
  | [], [] => true
  | x :: xs, y :: ys => x.same y && sameAll xs ys
  | _, _ => false

def display : Postfix → String
  | literal x => Decimal.plainText x
  | call name (some argc) => s!"{name}/{argc}"
  | call name none => s!"{name}/None"
  | operator symbol => symbol
  | mark name => name

/-- The name of the kind of element; a mark has none. -/
def kindName? : Postfix → Option String
  | literal _ => some "LITERAL"
  | call .. => some "FUNCTION_CALL"
  | operator _ => some "OPERATOR"
  | mark _ => none

/-- The element as it is shown to a reader, if it has a kind. -/
def describe? (element : Postfix) : Option String :=
  element.kindName?.map fun kind => s!"RpnToken({kind}, {element.display})"

/-- The elements in one line. -/
def displayAll (elements : List Postfix) : String := " ".intercalate (elements.map display)

end Postfix

end SciCalc
