import SciCalc.Decimal.Reader
import SciCalc.Postfix.Basic
import SciCalc.Tables
import SciCalc.Token.Basic

/-!
# From infix to postfix

Tokens are read once, from left to right. Literals go straight to the output; operators, functions and open
parentheses wait on a stack until what they apply to has been written.
-/

namespace SciCalc.Postfix

namespace Parser

/-- What waits on the stack, with its place in the text. -/
inductive Entry where
  | operator (rule : OperatorRule) (offset : Int)
  | function (name : String) (offset : Int)
  | paren (offset : Int)
deriving DecidableEq, Repr

def Entry.offset : Entry → Int
  | operator _ offset | function _ offset | paren offset => offset

/-- An open parenthesis: whether it holds the arguments of a function, and the commas read in it. -/
structure Frame where
  isCall : Bool
  commas : Nat
deriving DecidableEq, Repr

/-- The state between two tokens. The frames belong to the open parentheses on the stack, one to one. -/
structure State where
  /-- What has been written, the latest first. -/
  output : List Postfix := []
  /-- What waits, the latest first. -/
  stack : List Entry := []
  /-- The open parentheses, the innermost first. -/
  frames : List Frame := []
  /-- The next token begins an operand, so a minus is a sign. -/
  expectOperand : Bool := true
  /-- The kind of the last token. -/
  previous : Option Token.Kind := none
  /-- The last token was the name of a function. -/
  afterFunction : Bool := false

/-- Writes the operators above the innermost open parenthesis and leaves that on the stack. -/
def unwind (output : List Postfix) : List Entry → Except Failure (List Postfix × List Entry)
  | [] => .ok (output, [])
  | .paren offset :: rest => .ok (output, .paren offset :: rest)
  | .operator rule _ :: rest => unwind (.operator rule.symbol :: output) rest
  | .function .. :: _ => .error .stacksOutOfStep

/-- Writes the operators that take their operands before `incoming` is put on the stack. -/
def giveWay (incoming : OperatorRule) (output : List Postfix) :
    List Entry → List Postfix × List Entry
  | .operator top offset :: rest =>
    if top.precedes incoming then giveWay incoming (.operator top.symbol :: output) rest
    else (output, .operator top offset :: rest)
  | stack => (output, stack)

/-- The fault of a function name that no parenthesis follows. -/
def bareFunction (stack : List Entry) : Failure :=
  match stack with
  | entry :: _ => .fault (.mismatchedParenthesis entry.offset)
  | [] => .stacksOutOfStep

def number (state : State) (token : Token) : Except Failure State :=
  match Decimal.readFloat? token.text with
  | some value => .ok { state with output := .literal value :: state.output, expectOperand := false }
  | none => .error (.unreadableNumber token.text)

def identifier (tables : Tables) (state : State) (token : Token) : Except Failure State :=
  match tables.function? token.text with
  | some rule =>
    .ok { state with
      stack := .function rule.name token.offset :: state.stack
      expectOperand := true
      afterFunction := true }
  | none =>
    match tables.constant? token.text with
    | some value => .ok { state with output := .literal value :: state.output, expectOperand := false }
    | none => .error (.fault (.unknownIdentifier token.text token.offset))

/-- `call` tells that the parenthesis follows the name of a function. -/
def openParen (call : Bool) (state : State) (token : Token) : Except Failure State :=
  .ok { state with
    stack := .paren token.offset :: state.stack
    frames := ⟨call, 0⟩ :: state.frames
    expectOperand := true }

def closeParen (state : State) (token : Token) : Except Failure State := do
  match ← unwind state.output state.stack with
  | (_, []) => .error (.fault (.mismatchedParenthesis token.offset))
  | (output, _ :: stack) =>
    match state.frames with
    | [] => .error .stacksOutOfStep
    | frame :: frames =>
      let closed := { state with frames, expectOperand := false }
      if frame.isCall then
        let argc : Int := if state.previous = some .leftParen then 0 else frame.commas + 1
        match stack with
        | .function name _ :: below =>
          .ok { closed with output := .call name (some argc) :: output, stack := below }
        | _ => .error .stacksOutOfStep
      else .ok { closed with output, stack }

def comma (state : State) (token : Token) : Except Failure State := do
  match ← unwind state.output state.stack with
  | (_, []) => .error (.fault (.misplacedComma token.offset))
  | (output, stack) =>
    match state.frames with
    | [] => .error .stacksOutOfStep
    | frame :: frames =>
      if frame.isCall then
        .ok { state with
          output
          stack
          frames := { frame with commas := frame.commas + 1 } :: frames
          expectOperand := true }
      else .error (.fault (.misplacedComma token.offset))

def operator (tables : Tables) (state : State) (token : Token) : Except Failure State :=
  let symbol :=
    if token.text = "-" && state.expectOperand then Operator.negSymbol else token.text
  match tables.operator? symbol with
  | none => .error (.unlistedOperator symbol)
  | some incoming =>
    if incoming.arity == 1 && !incoming.isPrefix && state.expectOperand then
      .error (.fault (.missingOperand symbol token.offset))
    else
      let (output, stack) := giveWay incoming state.output state.stack
      .ok { state with
        output
        stack := .operator incoming token.offset :: stack
        expectOperand := incoming.arity == 2 || incoming.isPrefix }

/-- Reads one token. -/
def step (tables : Tables) (state : State) (token : Token) : Except Failure State := do
  if state.afterFunction && token.kind != .leftParen then throw (bareFunction state.stack)
  let call := state.afterFunction
  let state := { state with afterFunction := false }
  let next ← match token.kind with
    | .number => number state token
    | .identifier => identifier tables state token
    | .leftParen => openParen call state token
    | .rightParen => closeParen state token
    | .comma => comma state token
    | .operator => operator tables state token
  return { next with previous := some token.kind }

def run (tables : Tables) (state : State) (tokens : List Token) : Except Failure State :=
  tokens.foldlM (step tables) state

/-- Writes the operators that still wait. -/
def flush (output : List Postfix) : List Entry → Except Failure (List Postfix)
  | [] => .ok output
  | .paren offset :: _ => .error (.fault (.mismatchedParenthesis offset))
  | .operator rule _ :: rest => flush (.operator rule.symbol :: output) rest
  | .function .. :: _ => .error .stacksOutOfStep

def finish (state : State) : Except Failure (List Postfix) := do
  if state.afterFunction then throw (bareFunction state.stack)
  return (← flush state.output state.stack).reverse

end Parser

/-- The postfix form of an infix expression. -/
def ofTokens (tables : Tables) (tokens : List Token) : Except Failure (List Postfix) := do
  Parser.finish (← Parser.run tables {} tokens)

end SciCalc.Postfix
