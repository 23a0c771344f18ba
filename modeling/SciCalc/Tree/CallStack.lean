import SciCalc.Failure
import SciCalc.Tree.Printer

/-!
# Nested calls

The value and the text of a tree are found by recursion, and each call takes room on the stack of the interpreter. A
tree that is too deep for the stack is not gone through to the end.
-/

namespace SciCalc

/-- The frames that are left on the stack of calls when a tree is gone through, and how many of them a tree takes beside
those of its operands. -/
structure CallStack where
  room : Nat
  evaluation : Tree → Nat
  printing : Tree → Nat

namespace CallStack

/-- The stack has a thousand frames, and some are taken before. Operands are evaluated within a list, in a frame of its
own; arguments are written within two more frames, and so is the text of a number. The calls that compute with the
operands are not counted, since they take hardly more frames than the operands do. -/
def standard : CallStack where
  room := 995
  evaluation
    | .number _ => 1
    | .unary .. | .binary .. | .apply .. | .power .. => 2
  printing
    | .number _ | .apply .. | .power .. => 3
    | .unary .. | .binary .. => 1

/-- A call that takes so many frames of the room. What is called within it has the rest. -/
def enter {α : Type} (room frames : Nat) (call : Nat → Except Failure α) : Except Failure α :=
  if frames ≤ room then call (room - frames) else .error .recursionTooDeep

end CallStack

namespace Tree

open CallStack

/-- The value of the tree, or the failure to find it within the room. -/
def evaluateWithin (frames : Tree → Nat) (unit : AngleUnit) (room : Nat) : Tree → Except Failure Float
  | number x => enter room (frames (number x)) fun _ => .ok x
  | unary op operand => enter room (frames (unary op operand)) fun rest => do
    return op.apply (← operand.evaluateWithin frames unit rest)
  | binary op left right => enter room (frames (binary op left right)) fun rest => do
    let x ← left.evaluateWithin frames unit rest
    let y ← right.evaluateWithin frames unit rest
    op.apply x y
  | apply f argument => enter room (frames (apply f argument)) fun rest => do
    f.apply unit (← argument.evaluateWithin frames unit rest)
  | power base exponent => enter room (frames (power base exponent)) fun rest => do
    let x ← base.evaluateWithin frames unit rest
    let y ← exponent.evaluateWithin frames unit rest
    BinaryOperator.pow.apply x y

/-- The text of the tree, or the failure to write it within the room. -/
def printWithin (frames : Tree → Nat) (room : Nat) : Tree → Except Failure String
  | number x => enter room (frames (number x)) fun _ => .ok (printNumber x)
  | unary op operand => enter room (frames (unary op operand)) fun rest => do
    return printUnary op (← operand.printWithin frames rest)
  | binary op left right => enter room (frames (binary op left right)) fun rest => do
    let text ← left.printWithin frames rest
    return printBinary op text (← right.printWithin frames rest)
  | apply f argument => enter room (frames (apply f argument)) fun rest => do
    return printApply f (← argument.printWithin frames rest)
  | power base exponent => enter room (frames (power base exponent)) fun rest => do
    let text ← base.printWithin frames rest
    return printPower text (← exponent.printWithin frames rest)

/-- The frames that are needed for the tree and, within it, for the deepest of its operands. -/
def depth (frames : Tree → Nat) : Tree → Nat
  | number x => frames (number x)
  | unary op operand => frames (unary op operand) + operand.depth frames
  | binary op left right => frames (binary op left right) + max (left.depth frames) (right.depth frames)
  | apply f argument => frames (apply f argument) + argument.depth frames
  | power base exponent => frames (power base exponent) + max (base.depth frames) (exponent.depth frames)

end Tree

namespace CallStack

/-- The value of the tree, found by nested calls on the stack. -/
def evaluate (stack : CallStack) (unit : AngleUnit) (tree : Tree) : Except Failure Float :=
  tree.evaluateWithin stack.evaluation unit stack.room

/-- The text of the tree, written by nested calls on the stack. -/
def print (stack : CallStack) (tree : Tree) : Except Failure String := tree.printWithin stack.printing stack.room

/-- There is room for the evaluation of the tree. -/
def HoldsValue (stack : CallStack) (tree : Tree) : Prop := tree.depth stack.evaluation ≤ stack.room

/-- There is room for the printing of the tree. -/
def HoldsText (stack : CallStack) (tree : Tree) : Prop := tree.depth stack.printing ≤ stack.room

instance (stack : CallStack) (tree : Tree) : Decidable (stack.HoldsValue tree) := inferInstanceAs (Decidable (_ ≤ _))

instance (stack : CallStack) (tree : Tree) : Decidable (stack.HoldsText tree) := inferInstanceAs (Decidable (_ ≤ _))

end CallStack

end SciCalc
