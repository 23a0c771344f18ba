import SciCalc.Proofs.ParserSteps

/-!
# Places of tokens

In an infix text the place behind each token asks for an operand or for what may stand behind one. Whether
the tokens of a text are in place is seen from one token to the next, without regard to what the parentheses
enclose.
-/

namespace SciCalc

/-- What the place behind a token asks for. -/
inductive Token.Place where
  /-- An operand. -/
  | operand
  /-- An operand, or the closing parenthesis of a call without arguments. -/
  | arguments
  /-- The open parenthesis of a call. -/
  | name
  /-- Anything but an operand. -/
  | value
deriving DecidableEq, Repr

namespace Token

/-- The place behind the token if it may stand in this one. -/
def Place.next? (place : Place) (token : Token) : Option Place :=
  match place, token.kind with
  | .operand, .number | .arguments, .number => some .value
  | .operand, .identifier | .arguments, .identifier =>
    some (if (Tables.standard.function? token.text).isSome then .name else .value)
  | .operand, .leftParen | .arguments, .leftParen => some .operand
  | .operand, .operator | .arguments, .operator => if token.text = "-" then some .operand else none
  | .arguments, .rightParen => some .value
  | .name, .leftParen => some .arguments
  | .value, .operator => some (if token.text = "%" then .value else .operand)
  | .value, .rightParen => some .value
  | .value, .comma => some .operand
  | _, _ => none

/-- Every token stands in a place that asks for it, and nothing is missing behind the last one. -/
def InPlace (tokens : List Token) : Prop := tokens.foldlM Place.next? Place.operand = some .value

instance (tokens : List Token) : Decidable (InPlace tokens) :=
  inferInstanceAs (Decidable (_ = _))

/-- An operand may begin in the place. -/
def Place.Begins (place : Place) : Prop := place = .operand ∨ place = .arguments

theorem foldlM_next?_append {xs ys : List Token} {place middle : Place}
    (h : xs.foldlM Place.next? place = some middle) :
    (xs ++ ys).foldlM Place.next? place = ys.foldlM Place.next? middle := by
  rw [List.foldlM_append, h]
  rfl

variable {place : Place}

theorem Place.Begins.number (h : place.Begins) (text : String) (offset : Int) :
    place.next? ⟨.number, text, offset⟩ = some .value := by
  rcases h with rfl | rfl <;> rfl

theorem Place.Begins.identifier (h : place.Begins) (text : String) (offset : Int) :
    place.next? ⟨.identifier, text, offset⟩ =
      some (if (Tables.standard.function? text).isSome then .name else .value) := by
  rcases h with rfl | rfl <;> rfl

theorem Place.Begins.leftParen (h : place.Begins) (text : String) (offset : Int) :
    place.next? ⟨.leftParen, text, offset⟩ = some .operand := by
  rcases h with rfl | rfl <;> rfl

theorem Place.Begins.minus (h : place.Begins) (offset : Int) :
    place.next? ⟨.operator, "-", offset⟩ = some .operand := by
  rcases h with rfl | rfl <;> rfl

/-- Behind an operand a binary operator asks for another one. -/
theorem next?_binary (op : BinaryOperator) (offset : Int) :
    Place.value.next? ⟨.operator, (Operator.binary op).symbol, offset⟩ = some .operand := by
  cases op <;> rfl

theorem foldlM_next?_binary {xs ys : List Token} (op : BinaryOperator) (offset : Int)
    (h : xs.foldlM Place.next? place = some .value) (h' : ys.foldlM Place.next? Place.operand = some .value) :
    (xs ++ ⟨.operator, (Operator.binary op).symbol, offset⟩ :: ys).foldlM Place.next? place = some .value := by
  rw [foldlM_next?_append h, List.foldlM_cons, next?_binary]
  exact h'

/-- Tokens between parentheses, and the closing parenthesis. -/
theorem foldlM_next?_close {xs : List Token} (last : Int)
    (h : xs.foldlM Place.next? place = some .value) :
    List.foldlM Place.next? place (xs ++ [⟨.rightParen, ")", last⟩]) = some .value := by
  rw [foldlM_next?_append h]
  rfl

theorem foldlM_next?_call {text : String} {rule : FunctionRule} {xs : List Token} (hplace : place.Begins)
    (hrule : Tables.standard.function? text = some rule) (offset first : Int)
    (h : xs.foldlM Place.next? Place.arguments = some .value) :
    List.foldlM Place.next? place (⟨.identifier, text, offset⟩ :: ⟨.leftParen, "(", first⟩ :: xs) =
      some .value := by
  have hname : place.next? ⟨.identifier, text, offset⟩ = some .name := by
    rw [hplace.identifier, hrule]
    rfl
  rw [List.foldlM_cons, hname]
  exact h

end Token

namespace Infix

open Token

/-- What a derivation spells stands in place wherever an operand may begin. -/
theorem foldlM_next?_tokens {level : Level} (phrase : Infix level) :
    ∀ place : Place, place.Begins → phrase.tokens.foldlM Place.next? place = some .value := by
  have hoperand : Place.operand.Begins := Or.inl rfl
  have harguments : Place.arguments.Begins := Or.inr rfl
  induction phrase with
  | product only ih => exact ih
  | sum left op hop offset right ihl ihr =>
    intro place hplace
    exact foldlM_next?_binary op offset (ihl place hplace) (ihr _ hoperand)
  | signed only ih => exact ih
  | times left op hop offset right ihl ihr =>
    intro place hplace
    exact foldlM_next?_binary op offset (ihl place hplace) (ihr _ hoperand)
  | minus offset inner ih =>
    intro place hplace
    rw [tokens, List.foldlM_cons, hplace.minus]
    exact ih _ hoperand
  | unsigned only ih => exact ih
  | base only ih => exact ih
  | raised lower offset exponent ihl ihe =>
    intro place hplace
    exact foldlM_next?_binary .pow offset (ihl place hplace) (ihe _ hoperand)
  | operand only ih => exact ih
  | percent inner offset ih =>
    intro place hplace
    rw [tokens, foldlM_next?_append (ih place hplace)]
    rfl
  | number text htext offset =>
    intro place hplace
    rw [tokens, List.foldlM_cons, hplace.number]
    rfl
  | constant text value hvalue offset =>
    intro place hplace
    have hfunction : Tables.standard.function? text = none := Tables.function?_of_constant? hvalue
    rw [tokens, List.foldlM_cons, hplace.identifier, hfunction]
    rfl
  | group first inner last ih =>
    intro place hplace
    rw [tokens, List.cons_append, List.foldlM_cons, hplace.leftParen]
    exact foldlM_next?_close last (ih _ hoperand)
  | callNone text rule hrule offset first last =>
    intro place hplace
    exact foldlM_next?_call hplace hrule offset first rfl
  | call text rule hrule offset first arguments last ih =>
    intro place hplace
    exact foldlM_next?_call hplace hrule offset first (foldlM_next?_close last (ih _ harguments))
  | argument only ih => exact ih
  | comma before offset last ihb ihl =>
    intro place hplace
    rw [tokens, foldlM_next?_append (ihb place hplace)]
    exact ihl _ hoperand

theorem inPlace_tokens (phrase : Infix .sum) : InPlace phrase.tokens :=
  foldlM_next?_tokens phrase .operand (Or.inl rfl)

end Infix

end SciCalc
