import SciCalc.Proofs.ParserFrames

/-!
# Written literals

Numbers and constants are written when they are read, and nothing else writes a literal: the literals of a postfix
form are the values of the numbers and constants among the tokens, in their order.
-/

namespace SciCalc

/-- The value that a token stands for, if it is a number or the name of a constant. -/
def Token.value? (tables : Tables) (token : Token) : Option Float :=
  match token.kind with
  | .number => Decimal.readFloat? token.text
  | .identifier => if (tables.function? token.text).isSome then none else tables.constant? token.text
  | .operator | .leftParen | .rightParen | .comma => none

namespace Postfix

def value? : Postfix → Option Float
  | literal x => some x
  | call .. | operator _ | mark _ => none

theorem mem_values {elements : List Postfix} {x : Float} :
    x ∈ elements.filterMap value? ↔ .literal x ∈ elements := by
  rw [List.mem_filterMap]
  constructor
  · rintro ⟨element, hmem, hvalue⟩
    cases element with
    | literal y =>
      cases hvalue
      exact hmem
    | call name argc => contradiction
    | operator symbol => contradiction
    | mark name => contradiction
  · intro hmem
    exact ⟨.literal x, hmem, rfl⟩

namespace Parser

section

variable {tables : Tables} {output written : List Postfix} {stack rest : List Entry}

theorem values_unwind (h : unwind output stack = .ok (written, rest)) :
    written.filterMap value? = output.filterMap value? := by
  induction stack generalizing output with
  | nil =>
    cases h
    rfl
  | cons entry below ih =>
    cases entry with
    | operator rule offset =>
      have hbelow : unwind (.operator rule.symbol :: output) below = .ok (written, rest) := h
      have hvalues := ih hbelow
      exact hvalues
    | function name offset => contradiction
    | paren offset =>
      cases h
      rfl

theorem values_giveWay (incoming : OperatorRule) (output : List Postfix) (stack : List Entry) :
    (giveWay incoming output stack).1.filterMap value? = output.filterMap value? := by
  induction stack generalizing output with
  | nil => rfl
  | cons entry below ih =>
    cases entry with
    | operator rule offset =>
      rw [giveWay]
      split
      · exact ih _
      · rfl
    | function name offset => rfl
    | paren offset => rfl

theorem values_flush (h : flush output stack = .ok written) :
    written.filterMap value? = output.filterMap value? := by
  induction stack generalizing output with
  | nil =>
    cases h
    rfl
  | cons entry below ih =>
    cases entry with
    | operator rule offset =>
      have hbelow : flush (.operator rule.symbol :: output) below = .ok written := h
      have hvalues := ih hbelow
      exact hvalues
    | function name offset => contradiction
    | paren offset => contradiction

/-- A token writes its value, if it has one, and no other literal. -/
theorem Turn.values {state next : State} {token : Token} (h : Turn tables state token next) :
    next.output.filterMap value? = (token.value? tables).toList ++ state.output.filterMap value? := by
  cases h with
  | number offset hvalue =>
    simp only [Token.value?, hvalue]
    rfl
  | function offset hrule =>
    simp only [Token.value?, hrule]
    rfl
  | constant offset hrule hvalue =>
    simp only [Token.value?, hrule, hvalue]
    rfl
  | openParen call text offset => rfl
  | closeGroup text offset hunwind => exact values_unwind hunwind
  | closeCall text offset hunwind =>
    have hvalues := values_unwind hunwind
    exact hvalues
  | comma text offset hunwind => exact values_unwind hunwind
  | operator offset hrule hplace => exact values_giveWay _ _ _

theorem values_of_run {tokens : List Token} {state final : State} (hrun : run tables state tokens = .ok final) :
    final.output.filterMap value? =
      (tokens.filterMap (·.value? tables)).reverse ++ state.output.filterMap value? := by
  unfold run at hrun
  -- the last literal is written in front, so the values come in reverse
  induction tokens generalizing state with
  | nil =>
    cases hrun
    rfl
  | cons token rest ih =>
    obtain ⟨next, hstep, hrun⟩ := bind_eq_ok hrun
    rw [ih hrun, (turn_of_step hstep).values, List.filterMap_cons]
    cases token.value? tables with
    | none => rfl
    | some x => simp

end

end Parser

/-- The literals are the values of the numbers and constants, in their order. -/
theorem values_of_ofTokens {tables : Tables} {tokens : List Token} {elements : List Postfix}
    (h : ofTokens tables tokens = .ok elements) :
    elements.filterMap value? = tokens.filterMap (·.value? tables) := by
  obtain ⟨final, hrun, -, hflush⟩ := Parser.exists_run_of_ofTokens h
  refine List.reverse_inj.mp ?_
  calc (elements.filterMap value?).reverse
      = elements.reverse.filterMap value? := List.filterMap_reverse.symm
    _ = final.output.filterMap value? := Parser.values_flush hflush
    _ = (tokens.filterMap (·.value? tables)).reverse := by
      rw [Parser.values_of_run hrun]
      simp

end Postfix

end SciCalc
