import SciCalc.Text.Quoted

/-!
# Tokens

The words of an expression: numbers, identifiers, operators and punctuation.
-/

namespace SciCalc

inductive Token.Kind where
  | number
  | identifier
  | operator
  | leftParen
  | rightParen
  | comma
deriving DecidableEq, Repr

namespace Token.Kind

def all : List Kind := [number, identifier, operator, leftParen, rightParen, comma]

def name : Kind → String
  | number => "number"
  | identifier => "identifier"
  | operator => "operator"
  | leftParen => "left_paren"
  | rightParen => "right_paren"
  | comma => "comma"

def ofName? (name : String) : Option Kind := all.find? fun kind => kind.name == name

end Token.Kind

/-- A word of an expression and where it begins. -/
structure Token where
  kind : Token.Kind
  text : String
  offset : Int
deriving DecidableEq, Repr

namespace Token

/-- The same word, wherever it stands. -/
def sameWord (a b : Token) : Bool := a.kind == b.kind && a.text == b.text

/-- The token as it is shown to a reader. -/
def describe (token : Token) : String :=
  s!"Token({token.kind.name.toUpper}, {Text.quoted token.text}, offset={token.offset})"

end Token

end SciCalc
