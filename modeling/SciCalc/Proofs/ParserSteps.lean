import SciCalc.Postfix.Parser
import SciCalc.Proofs.Attempt
import SciCalc.Proofs.Grammar
import SciCalc.Proofs.Names

/-!
# Steps of the parser

What the parser does with one token, said for the state it has while it reads a grammatical text: operators of
one level wait above a stack that they leave alone.
-/

namespace SciCalc

namespace Tables

theorem operator?_symbol (op : Operator) : standard.operator? op.symbol = some op.rule := by
  rcases op with op | op <;> cases op <;> rfl

/-- Names of constants are no names of functions. -/
theorem function?_of_constant? {text : String} {value : Float}
    (h : standard.constant? text = some value) : standard.function? text = none := by
  by_cases he : Text.lower text = "e"
  · rw [function?, he]
    rfl
  by_cases hpi : Text.lower text = "pi"
  · rw [function?, hpi]
    rfl
  have hnone : standard.constant? text = none := by
    simp [constant?, standard, standardConstants, List.lookup_cons, beq_false_of_ne he, beq_false_of_ne hpi]
  rw [hnone] at h
  contradiction

end Tables

/-- The operators that a phrase of a level may leave waiting. -/
def Infix.Level.operators : Infix.Level → List Operator
  | .sum | .arguments => Operator.all
  | .product => [.binary .mul, .binary .div, .binary .pow, .unary .neg, .unary .percent]
  | .signed | .power => [.binary .pow, .unary .neg, .unary .percent]
  | .percent => [.unary .percent]
  | .operand => []

namespace Postfix.Parser

open Infix (Level)

/-- Operators on the stack, the latest first, with their places. -/
def waiting (pending : List (Operator × Int)) : List Entry :=
  pending.map fun (op, offset) => .operator op.rule offset

/-- The output after the operators that wait have been written. -/
def emit (pending : List (Operator × Int)) (output : List Postfix) : List Postfix :=
  (pending.map fun (op, _) => .operator op.symbol).reverse ++ output

@[simp] theorem waiting_nil : waiting [] = [] := rfl

@[simp] theorem emit_nil (output : List Postfix) : emit [] output = output := rfl

@[simp] theorem waiting_cons (op : Operator) (offset : Int) (pending : List (Operator × Int)) :
    waiting ((op, offset) :: pending) = .operator op.rule offset :: waiting pending := rfl

@[simp] theorem waiting_append (upper lower : List (Operator × Int)) :
    waiting (upper ++ lower) = waiting upper ++ waiting lower := List.map_append

theorem emit_cons (op : Operator) (offset : Int) (pending : List (Operator × Int)) (output : List Postfix) :
    emit ((op, offset) :: pending) output = emit pending (.operator op.symbol :: output) := by
  simp [emit]

@[simp] theorem emit_append (upper lower : List (Operator × Int)) (output : List Postfix) :
    emit (upper ++ lower) output = emit lower (emit upper output) := by
  simp [emit]

theorem unwind_waiting (pending : List (Operator × Int)) (output : List Postfix) (stack : List Entry) :
    unwind output (waiting pending ++ stack) = unwind (emit pending output) stack := by
  induction pending generalizing output with
  | nil => rfl
  | cons entry rest ih =>
    rw [waiting_cons, List.cons_append, emit_cons, unwind]
    exact ih _

theorem flush_waiting (pending : List (Operator × Int)) (output : List Postfix) (stack : List Entry) :
    flush output (waiting pending ++ stack) = flush (emit pending output) stack := by
  induction pending generalizing output with
  | nil => rfl
  | cons entry rest ih =>
    rw [waiting_cons, List.cons_append, emit_cons, flush]
    exact ih _

/-- No operator on top of the stack takes its operands before an operator of the level. -/
def Free (level : Level) : List Entry → Prop
  | .operator top _ :: _ => ∀ op ∈ level.operators, top.precedes op.rule = false
  | _ => True

theorem Free.mono {inner outer : Level} {stack : List Entry} (hsub : inner.operators ⊆ outer.operators)
    (h : Free outer stack) : Free inner stack := by
  match stack with
  | .operator top _ :: _ => exact fun op hop => h op (hsub hop)
  | .function .. :: _ | .paren _ :: _ | [] => trivial

theorem giveWay_of_free {level : Level} {op : Operator} (hop : op ∈ level.operators)
    (output : List Postfix) {stack : List Entry} (h : Free level stack) :
    giveWay op.rule output stack = (output, stack) := by
  match stack with
  | .operator top _ :: _ => rw [giveWay, h op hop, if_neg Bool.false_ne_true]
  | .function .. :: _ | .paren _ :: _ | [] => rfl

theorem giveWay_waiting {incoming : OperatorRule} {pending : List (Operator × Int)}
    (h : ∀ entry ∈ pending, entry.1.rule.precedes incoming = true) (output : List Postfix)
    (stack : List Entry) :
    giveWay incoming output (waiting pending ++ stack) = giveWay incoming (emit pending output) stack := by
  induction pending generalizing output with
  | nil => rfl
  | cons entry rest ih =>
    rw [waiting_cons, List.cons_append, emit_cons, giveWay, if_pos (h entry List.mem_cons_self)]
    exact ih (fun e he => h e (List.mem_cons_of_mem _ he)) _

variable {output : List Postfix} {stack : List Entry} {frames : List Frame} {expect : Bool}
  {previous : Option Token.Kind}

theorem step_number {text : String} (htext : Token.IsNumeral text.toList) (offset : Int) :
    step .standard ⟨output, stack, frames, expect, previous, false⟩ ⟨.number, text, offset⟩ =
      .ok ⟨.literal (Decimal.Digits.toFloat false (.ofNumeral text.toList)) :: output, stack, frames, false,
        some .number, false⟩ := by
  simp only [step, number, Decimal.readFloat?_numeral htext]
  rfl

theorem step_constant {text : String} {value : Float} (hvalue : Tables.standard.constant? text = some value)
    (offset : Int) :
    step .standard ⟨output, stack, frames, expect, previous, false⟩ ⟨.identifier, text, offset⟩ =
      .ok ⟨.literal value :: output, stack, frames, false, some .identifier, false⟩ := by
  simp only [step, identifier, Tables.function?_of_constant? hvalue, hvalue]
  rfl

theorem step_function {text : String} {rule : FunctionRule}
    (hrule : Tables.standard.function? text = some rule) (offset : Int) :
    step .standard ⟨output, stack, frames, expect, previous, false⟩ ⟨.identifier, text, offset⟩ =
      .ok ⟨output, .function rule.name offset :: stack, frames, true, some .identifier, true⟩ := by
  simp only [step, identifier, hrule]
  rfl

theorem step_open (call : Bool) (text : String) (offset : Int) :
    step .standard ⟨output, stack, frames, expect, previous, call⟩ ⟨.leftParen, text, offset⟩ =
      .ok ⟨output, .paren offset :: stack, ⟨call, 0⟩ :: frames, true, some .leftParen, false⟩ := by
  cases call <;> rfl

/-- A closing parenthesis of a group writes what waits in it. -/
theorem step_close_group (pending : List (Operator × Int)) (first : Int) (commas : Nat) (text : String)
    (offset : Int) :
    step .standard ⟨output, waiting pending ++ .paren first :: stack, ⟨false, commas⟩ :: frames, expect,
      previous, false⟩ ⟨.rightParen, text, offset⟩ =
      .ok ⟨emit pending output, stack, frames, false, some .rightParen, false⟩ := by
  simp only [step, closeParen, unwind_waiting, unwind]
  rfl

variable (output stack frames expect previous) in
/-- A closing parenthesis of a call writes what waits in it, then the call. -/
theorem step_close_call (pending : List (Operator × Int)) (first : Int) (commas : Nat) (name text : String)
    (place offset : Int) :
    step .standard ⟨output, waiting pending ++ .paren first :: .function name place :: stack,
      ⟨true, commas⟩ :: frames, expect, previous, false⟩ ⟨.rightParen, text, offset⟩ =
      .ok ⟨.call name (some (if previous = some .leftParen then 0 else commas + 1)) :: emit pending output,
        stack, frames, false, some .rightParen, false⟩ := by
  simp only [step, closeParen, unwind_waiting, unwind]
  rfl

theorem step_comma (pending : List (Operator × Int)) (first : Int) (commas : Nat) (text : String)
    (offset : Int) :
    step .standard ⟨output, waiting pending ++ .paren first :: stack, ⟨true, commas⟩ :: frames, expect,
      previous, false⟩ ⟨.comma, text, offset⟩ =
      .ok ⟨emit pending output, .paren first :: stack, ⟨true, commas + 1⟩ :: frames, true, some .comma,
        false⟩ := by
  simp only [step, comma, unwind_waiting, unwind]
  rfl

theorem step_minus (offset : Int) :
    step .standard ⟨output, stack, frames, true, previous, false⟩ ⟨.operator, "-", offset⟩ =
      .ok ⟨output, .operator (Operator.unary .neg).rule offset :: stack, frames, true, some .operator,
        false⟩ := by
  have hrule : Tables.standard.operator? Operator.negSymbol = some (Operator.unary .neg).rule :=
    Tables.operator?_symbol (.unary .neg)
  have hway : giveWay (Operator.unary .neg).rule output stack = (output, stack) := by
    match stack with
    | .operator top _ :: _ => rfl
    | .function .. :: _ | .paren _ :: _ | [] => rfl
  simp only [step, operator, decide_true, Bool.and_self, if_true, hrule, hway]
  rfl

variable (output frames previous) in
/-- A binary operator writes the operators that precede it and waits in their place. -/
theorem step_binary {level : Level} {op : BinaryOperator} {pending : List (Operator × Int)}
    (hpending : ∀ entry ∈ pending, entry.1.rule.precedes (Operator.binary op).rule = true)
    (hop : Operator.binary op ∈ level.operators) (hfree : Free level stack) (offset : Int) :
    step .standard ⟨output, waiting pending ++ stack, frames, false, previous, false⟩
      ⟨.operator, (Operator.binary op).symbol, offset⟩ =
      .ok ⟨emit pending output, .operator (Operator.binary op).rule offset :: stack, frames, true,
        some .operator, false⟩ := by
  have hway := (giveWay_waiting hpending output stack).trans (giveWay_of_free hop _ hfree)
  simp only [step, operator, Bool.and_false, Bool.false_eq_true, if_false, Tables.operator?_symbol, hway]
  rfl

variable (output frames previous) in
theorem step_percent {level : Level} {pending : List (Operator × Int)}
    (hpending : ∀ entry ∈ pending, entry.1.rule.precedes (Operator.unary .percent).rule = true)
    (hop : Operator.unary .percent ∈ level.operators) (hfree : Free level stack) (offset : Int) :
    step .standard ⟨output, waiting pending ++ stack, frames, false, previous, false⟩
      ⟨.operator, "%", offset⟩ =
      .ok ⟨emit pending output, .operator (Operator.unary .percent).rule offset :: stack, frames, false,
        some .operator, false⟩ := by
  have hrule : Tables.standard.operator? "%" = some (Operator.unary .percent).rule :=
    Tables.operator?_symbol (.unary .percent)
  have hway := (giveWay_waiting hpending output stack).trans (giveWay_of_free hop _ hfree)
  simp only [step, operator, Bool.and_false, Bool.false_eq_true, if_false, hrule, hway]
  rfl

end Postfix.Parser

end SciCalc
