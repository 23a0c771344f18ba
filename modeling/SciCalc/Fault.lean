import SciCalc.Scalar

/-!
# Faults of expressions

A `Fault` is what is wrong with an expression, found while its characters are read, while it is parsed or
while it is evaluated. Each fault has a kind, which fixes its stage, the names of its details and the
wording of its message.
-/

namespace SciCalc

/-- The part of the work in which a fault is found. -/
inductive Stage where
  | engine
  | lex
  | parse
  | eval
deriving DecidableEq, Repr

def Stage.name : Stage → String
  | engine => "engine"
  | lex => "lex"
  | parse => "parse"
  | eval => "eval"

/-- The kinds of faults. `general` is a fault of a stage that says no more than its note. -/
inductive FaultKind where
  | general (stage : Stage)
  | unexpectedCharacter
  | emptyExpression
  | inputTooLong
  | mismatchedParenthesis
  | misplacedComma
  | unknownIdentifier
  | missingOperand
  | stackUnderflow
  | arityMismatch
  | unknownFunction
  | unknownOperator
  | divisionByZero
  | domain
  | malformed
  | nonFinite
deriving DecidableEq, Repr

namespace FaultKind

/-- The stable name under which a fault is reported and counted. -/
def name : FaultKind → String
  | general _ => "EngineError"
  | unexpectedCharacter => "UnexpectedCharacter"
  | emptyExpression => "EmptyExpression"
  | inputTooLong => "InputTooLong"
  | mismatchedParenthesis => "MismatchedParenthesis"
  | misplacedComma => "MisplacedComma"
  | unknownIdentifier => "UnknownIdentifier"
  | missingOperand => "MissingOperand"
  | stackUnderflow => "StackUnderflow"
  | arityMismatch => "ArityMismatch"
  | unknownFunction => "UnknownFunction"
  | unknownOperator => "UnknownOperator"
  | divisionByZero => "DivisionByZero"
  | domain => "DomainError"
  | malformed => "MalformedExpression"
  | nonFinite => "NonFiniteResult"

def stage : FaultKind → Stage
  | general stage => stage
  | unexpectedCharacter | emptyExpression | inputTooLong => .lex
  | mismatchedParenthesis | misplacedComma | unknownIdentifier | missingOperand => .parse
  | stackUnderflow | arityMismatch | unknownFunction | unknownOperator | divisionByZero | domain
  | malformed | nonFinite => .eval

/-- The names of the details, in the order in which the message is built from them. -/
def detailNames : FaultKind → List String
  | general _ | emptyExpression | divisionByZero => []
  | unexpectedCharacter => ["offset", "char"]
  | inputTooLong => ["length", "limit"]
  | mismatchedParenthesis | misplacedComma => ["offset"]
  | unknownIdentifier => ["name", "offset"]
  | missingOperand => ["symbol", "offset"]
  | stackUnderflow => ["symbol", "expected", "available"]
  | arityMismatch => ["name", "expected", "received"]
  | unknownFunction => ["name"]
  | unknownOperator => ["symbol"]
  | domain => ["name", "value"]
  | malformed => ["stack_size"]
  | nonFinite => ["value"]

/-- Where in the text the fault lies, if that is known. -/
def place : Scalar → String
  | .absent => ""
  | offset => " at position " ++ offset.display

/-- The note of a general fault: its only detail, or all of them in parentheses. -/
def note : List Scalar → String
  | [] => ""
  | [value] => value.display
  | values => "(" ++ ", ".intercalate (values.map Scalar.cite) ++ ")"

/-- The message for the given details. A detail that is not given is absent. -/
def message (kind : FaultKind) (details : List Scalar) : String :=
  let first := details.getD 0 .absent
  let second := details.getD 1 .absent
  let third := details.getD 2 .absent
  match kind with
  | general _ => note details
  | unexpectedCharacter => s!"Unexpected character {second.cite} at position {first.display}"
  | emptyExpression => "Expression is empty"
  | inputTooLong => s!"Expression is too long ({first.display} characters, limit is {second.display})"
  | mismatchedParenthesis => s!"Mismatched parenthesis{place first}"
  | misplacedComma => s!"Comma outside a function argument list{place first}"
  | unknownIdentifier => s!"Unknown identifier {first.cite}"
  | missingOperand => s!"Operator {first.cite} has no operand before it{place second}"
  | stackUnderflow =>
    s!"Operator {first.cite} needs {second.display} operand(s), found {third.display}"
  | arityMismatch =>
    s!"Function {first.display}() takes {second.display} argument(s), got {third.display}"
  | unknownFunction => s!"Unknown function {first.cite}"
  | unknownOperator => s!"Unknown operator {first.cite}"
  | divisionByZero => "Division by zero"
  | domain => s!"{first.display}() is undefined for {second.cite}"
  | malformed =>
    s!"Malformed expression: {first.display} value(s) left after evaluation, expected 1"
  | nonFinite => s!"Result is not a finite number ({first.display})"

end FaultKind

/-- What is wrong with an expression. Offsets count characters from the start of the text. -/
inductive Fault where
  | unexpectedCharacter (offset : Int) (char : Char)
  | emptyExpression
  | inputTooLong (length limit : Int)
  | mismatchedParenthesis (offset : Int)
  | misplacedComma (offset : Int)
  | unknownIdentifier (name : String) (offset : Int)
  | missingOperand (symbol : String) (offset : Int)
  | stackUnderflow (symbol : String) (expected available : Nat)
  | arityMismatch (name : String) (expected : Nat) (received : Option Int)
  | unknownFunction (name : String)
  | unknownOperator (symbol : String)
  | divisionByZero
  | domain (name : String) (value : Float)
  | malformed (stackSize : Nat)
  | nonFinite (value : Float)

namespace Fault

def kind : Fault → FaultKind
  | unexpectedCharacter .. => .unexpectedCharacter
  | emptyExpression => .emptyExpression
  | inputTooLong .. => .inputTooLong
  | mismatchedParenthesis .. => .mismatchedParenthesis
  | misplacedComma .. => .misplacedComma
  | unknownIdentifier .. => .unknownIdentifier
  | missingOperand .. => .missingOperand
  | stackUnderflow .. => .stackUnderflow
  | arityMismatch .. => .arityMismatch
  | unknownFunction .. => .unknownFunction
  | unknownOperator .. => .unknownOperator
  | divisionByZero => .divisionByZero
  | domain .. => .domain
  | malformed .. => .malformed
  | nonFinite .. => .nonFinite

def stage (fault : Fault) : Stage := fault.kind.stage

/-- The details, in the order of `FaultKind.detailNames`. -/
def details : Fault → List Scalar
  | unexpectedCharacter offset char => [.integer offset, .text (String.ofList [char])]
  | emptyExpression | divisionByZero => []
  | inputTooLong length limit => [.integer length, .integer limit]
  | mismatchedParenthesis offset | misplacedComma offset => [.integer offset]
  | unknownIdentifier name offset => [.text name, .integer offset]
  | missingOperand symbol offset => [.text symbol, .integer offset]
  | stackUnderflow symbol expected available => [.text symbol, .integer expected, .integer available]
  | arityMismatch name expected received =>
    [.text name, .integer expected, (received.map Scalar.integer).getD .absent]
  | unknownFunction name => [.text name]
  | unknownOperator symbol => [.text symbol]
  | domain name value => [.text name, .number value]
  | malformed stackSize => [.integer stackSize]
  | nonFinite value => [.number value]

def message (fault : Fault) : String := fault.kind.message fault.details

end Fault

end SciCalc
