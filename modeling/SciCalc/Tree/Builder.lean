import SciCalc.Tree.Basic

/-!
# Trees of postfix expressions

The tree of a postfix expression is built on a stack of trees, as its value is computed on a stack of
numbers.
-/

namespace SciCalc.Tree

/-- Puts an operator over the trees on top of the stack. -/
def growOperator (symbol : String) (stack : List Tree) : Except Fault (List Tree) :=
  match Operator.ofSymbol? symbol with
  | none => .error (.unknownOperator symbol)
  | some op =>
    match op, stack with
    | .unary op, t :: rest => .ok (unary op t :: rest)
    | .binary op, u :: t :: rest => .ok (binary op t u :: rest)
    | _, _ => .error (.stackUnderflow symbol op.arity stack.length)

/-- Puts a function over the trees on top of the stack. The call has to tell its arguments. -/
def growFunction (name : String) (argc : Option Int) (stack : List Tree) : Except Fault (List Tree) :=
  match Function.ofName? name with
  | none => .error (.unknownFunction name)
  | some f =>
    if argc != some (f.arity : Int) then .error (.arityMismatch name f.arity argc)
    else
      match f, stack with
      | .unary f, t :: rest => .ok (apply f t :: rest)
      | .power, u :: t :: rest => .ok (power t u :: rest)
      | _, _ => .error (.arityMismatch name f.arity argc)

/-- Takes in one element. -/
def grow (stack : List Tree) : Postfix → Except Fault (List Tree)
  | .literal x => .ok (number x :: stack)
  | .operator symbol => growOperator symbol stack
  | .call name argc => growFunction name argc stack
  | .mark name => growFunction name none stack

/-- The tree of a postfix expression. -/
def ofPostfix (elements : List Postfix) : Except Fault Tree := do
  match ← elements.foldlM grow [] with
  | [tree] => return tree
  | stack => throw (.malformed stack.length)

end SciCalc.Tree
