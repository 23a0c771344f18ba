import SciCalc.Postfix.Basic
import SciCalc.Proofs.Numerals
import SciCalc.Tables

/-!
# The infix grammar

A derivation of the grammar of infix expressions: sums of products of signed powers, with percent signs behind
operands. A derivation spells a list of tokens, and its postfix form is the post-order of its tree.
-/

namespace SciCalc

/-- The levels of the grammar, from the loosest operators to operands, and the arguments of a call. -/
inductive Infix.Level where
  | sum
  | product
  | signed
  | power
  | percent
  | operand
  | arguments
deriving DecidableEq, Repr

/-- Derivations, by the level they are derived from. The whole numbers are the places of tokens in a text;
numbers, names of constants and names of functions may be any texts that the standard tables know. -/
inductive Infix : Infix.Level → Type where
  | product (only : Infix .product) : Infix .sum
  | sum (left : Infix .sum) (op : BinaryOperator) (hop : op = .add ∨ op = .sub) (offset : Int)
    (right : Infix .product) : Infix .sum
  | signed (only : Infix .signed) : Infix .product
  | times (left : Infix .product) (op : BinaryOperator) (hop : op = .mul ∨ op = .div) (offset : Int)
    (right : Infix .signed) : Infix .product
  | minus (offset : Int) (inner : Infix .signed) : Infix .signed
  | unsigned (only : Infix .power) : Infix .signed
  | base (only : Infix .percent) : Infix .power
  | raised (lower : Infix .percent) (offset : Int) (exponent : Infix .signed) : Infix .power
  | operand (only : Infix .operand) : Infix .percent
  | percent (inner : Infix .percent) (offset : Int) : Infix .percent
  | number (text : String) (htext : Token.IsNumeral text.toList) (offset : Int) : Infix .operand
  | constant (text : String) (value : Float) (hvalue : Tables.standard.constant? text = some value)
    (offset : Int) : Infix .operand
  | group (first : Int) (inner : Infix .sum) (last : Int) : Infix .operand
  | callNone (text : String) (rule : FunctionRule) (hrule : Tables.standard.function? text = some rule)
    (offset first last : Int) : Infix .operand
  | call (text : String) (rule : FunctionRule) (hrule : Tables.standard.function? text = some rule)
    (offset first : Int) (arguments : Infix .arguments) (last : Int) : Infix .operand
  | argument (only : Infix .sum) : Infix .arguments
  | comma (before : Infix .arguments) (offset : Int) (last : Infix .sum) : Infix .arguments

namespace Infix

/-- The tokens that a derivation spells. -/
def tokens : {level : Level} → Infix level → List Token
  | _, product only => only.tokens
  | _, sum left op _ offset right =>
    left.tokens ++ ⟨.operator, (Operator.binary op).symbol, offset⟩ :: right.tokens
  | _, signed only => only.tokens
  | _, times left op _ offset right =>
    left.tokens ++ ⟨.operator, (Operator.binary op).symbol, offset⟩ :: right.tokens
  | _, minus offset inner => ⟨.operator, "-", offset⟩ :: inner.tokens
  | _, unsigned only => only.tokens
  | _, base only => only.tokens
  | _, raised lower offset exponent => lower.tokens ++ ⟨.operator, "^", offset⟩ :: exponent.tokens
  | _, operand only => only.tokens
  | _, percent inner offset => inner.tokens ++ [⟨.operator, "%", offset⟩]
  | _, number text _ offset => [⟨.number, text, offset⟩]
  | _, constant text _ _ offset => [⟨.identifier, text, offset⟩]
  | _, group first inner last => ⟨.leftParen, "(", first⟩ :: inner.tokens ++ [⟨.rightParen, ")", last⟩]
  | _, callNone text _ _ offset first last =>
    [⟨.identifier, text, offset⟩, ⟨.leftParen, "(", first⟩, ⟨.rightParen, ")", last⟩]
  | _, call text _ _ offset first arguments last =>
    ⟨.identifier, text, offset⟩ :: ⟨.leftParen, "(", first⟩ :: arguments.tokens ++
      [⟨.rightParen, ")", last⟩]
  | _, argument only => only.tokens
  | _, comma before offset last => before.tokens ++ ⟨.comma, ",", offset⟩ :: last.tokens

/-- The number of arguments. -/
def count : Infix .arguments → Nat
  | argument _ => 1
  | comma before _ _ => before.count + 1

/-- The post-order of the tree of a derivation: literals, then what is applied to them. Parentheses leave no
trace; a call tells the number of its arguments. -/
def postorder : {level : Level} → Infix level → List Postfix
  | _, product only => only.postorder
  | _, sum left op _ _ right =>
    left.postorder ++ right.postorder ++ [.operator (Operator.binary op).symbol]
  | _, signed only => only.postorder
  | _, times left op _ _ right =>
    left.postorder ++ right.postorder ++ [.operator (Operator.binary op).symbol]
  | _, minus _ inner => inner.postorder ++ [.operator Operator.negSymbol]
  | _, unsigned only => only.postorder
  | _, base only => only.postorder
  | _, raised lower _ exponent => lower.postorder ++ exponent.postorder ++ [.operator "^"]
  | _, operand only => only.postorder
  | _, percent inner _ => inner.postorder ++ [.operator "%"]
  | _, number text _ _ => [.literal (Decimal.Digits.toFloat false (.ofNumeral text.toList))]
  | _, constant _ value _ _ => [.literal value]
  | _, group _ inner _ => inner.postorder
  | _, callNone _ rule _ _ _ _ => [.call rule.name (some 0)]
  | _, call _ rule _ _ _ arguments _ =>
    arguments.postorder ++ [.call rule.name (some arguments.count)]
  | _, argument only => only.postorder
  | _, comma before _ last => before.postorder ++ last.postorder

end Infix

end SciCalc
