import SciCalc.Postfix.Parser
import SciCalc.Proofs.Attempt

/-!
# Open parentheses

What a step of the parser does when it is no fault, and what such steps keep: every open parenthesis has its
frame, and the mark of a function stands below the parenthesis of its call and nowhere else.
-/

namespace SciCalc.Postfix.Parser

/-- What the parser does with a token that is no fault. -/
inductive Turn (tables : Tables) : State → Token → State → Prop
  | number {output stack frames expect previous text value} (offset : Int)
    (hvalue : Decimal.readFloat? text = some value) :
    Turn tables ⟨output, stack, frames, expect, previous, false⟩ ⟨.number, text, offset⟩
      ⟨.literal value :: output, stack, frames, false, some .number, false⟩
  | function {output stack frames expect previous text rule} (offset : Int)
    (hrule : tables.function? text = some rule) :
    Turn tables ⟨output, stack, frames, expect, previous, false⟩ ⟨.identifier, text, offset⟩
      ⟨output, .function rule.name offset :: stack, frames, true, some .identifier, true⟩
  | constant {output stack frames expect previous text value} (offset : Int)
    (hrule : tables.function? text = none) (hvalue : tables.constant? text = some value) :
    Turn tables ⟨output, stack, frames, expect, previous, false⟩ ⟨.identifier, text, offset⟩
      ⟨.literal value :: output, stack, frames, false, some .identifier, false⟩
  | openParen {output stack frames expect previous} (call : Bool) (text : String) (offset : Int) :
    Turn tables ⟨output, stack, frames, expect, previous, call⟩ ⟨.leftParen, text, offset⟩
      ⟨output, .paren offset :: stack, ⟨call, 0⟩ :: frames, true, some .leftParen, false⟩
  | closeGroup {output stack commas frames expect previous written top below} (text : String) (offset : Int)
    (hunwind : unwind output stack = .ok (written, top :: below)) :
    Turn tables ⟨output, stack, ⟨false, commas⟩ :: frames, expect, previous, false⟩
      ⟨.rightParen, text, offset⟩ ⟨written, below, frames, false, some .rightParen, false⟩
  | closeCall {output stack commas frames expect previous written top name place below} (text : String)
    (offset : Int) (hunwind : unwind output stack = .ok (written, top :: .function name place :: below)) :
    Turn tables ⟨output, stack, ⟨true, commas⟩ :: frames, expect, previous, false⟩
      ⟨.rightParen, text, offset⟩
      ⟨.call name (some (if previous = some .leftParen then 0 else commas + 1)) :: written, below, frames,
        false, some .rightParen, false⟩
  | comma {output stack commas frames expect previous written top below} (text : String) (offset : Int)
    (hunwind : unwind output stack = .ok (written, top :: below)) :
    Turn tables ⟨output, stack, ⟨true, commas⟩ :: frames, expect, previous, false⟩ ⟨.comma, text, offset⟩
      ⟨written, top :: below, ⟨true, commas + 1⟩ :: frames, true, some .comma, false⟩
  | operator {output stack frames expect previous text incoming} (offset : Int)
    (hrule : tables.operator? (if text = "-" && expect then Operator.negSymbol else text) = some incoming)
    (hplace : (incoming.arity == 1 && !incoming.isPrefix && expect) = false) :
    Turn tables ⟨output, stack, frames, expect, previous, false⟩ ⟨.operator, text, offset⟩
      ⟨(giveWay incoming output stack).1, .operator incoming offset :: (giveWay incoming output stack).2, frames,
        incoming.arity == 2 || incoming.isPrefix, some .operator, false⟩

section

variable {tables : Tables} {output : List Postfix} {stack : List Entry} {frames : List Frame} {expect : Bool}
  {previous : Option Token.Kind} {text : String} {offset : Int} {next : State}

theorem turn_of_identifier
    (h : step tables ⟨output, stack, frames, expect, previous, false⟩ ⟨.identifier, text, offset⟩ = .ok next) :
    Turn tables ⟨output, stack, frames, expect, previous, false⟩ ⟨.identifier, text, offset⟩ next := by
  obtain ⟨after, hafter, h⟩ := bind_eq_ok h
  cases h
  simp only [identifier] at hafter
  split at hafter
  · rename_i rule hrule
    cases hafter
    exact .function offset hrule
  · rename_i hrule
    split at hafter
    · rename_i value hvalue
      cases hafter
      exact .constant offset hrule hvalue
    · contradiction

theorem turn_of_closeParen
    (h : step tables ⟨output, stack, frames, expect, previous, false⟩ ⟨.rightParen, text, offset⟩ = .ok next) :
    Turn tables ⟨output, stack, frames, expect, previous, false⟩ ⟨.rightParen, text, offset⟩ next := by
  obtain ⟨after, hafter, h⟩ := bind_eq_ok h
  cases h
  obtain ⟨⟨written, rest⟩, hunwind, hafter⟩ := bind_eq_ok hafter
  match rest, frames with
  | [], _ => contradiction
  | _ :: _, [] => contradiction
  | top :: below, ⟨false, commas⟩ :: outer =>
    cases hafter
    exact .closeGroup text offset hunwind
  | top :: .function name place :: below, ⟨true, commas⟩ :: outer =>
    cases hafter
    exact .closeCall text offset hunwind
  | [_], ⟨true, _⟩ :: _ => contradiction
  | _ :: .operator .. :: _, ⟨true, _⟩ :: _ => contradiction
  | _ :: .paren _ :: _, ⟨true, _⟩ :: _ => contradiction

theorem turn_of_comma
    (h : step tables ⟨output, stack, frames, expect, previous, false⟩ ⟨.comma, text, offset⟩ = .ok next) :
    Turn tables ⟨output, stack, frames, expect, previous, false⟩ ⟨.comma, text, offset⟩ next := by
  obtain ⟨after, hafter, h⟩ := bind_eq_ok h
  cases h
  obtain ⟨⟨written, rest⟩, hunwind, hafter⟩ := bind_eq_ok hafter
  match rest, frames with
  | [], _ => contradiction
  | _ :: _, [] => contradiction
  | _ :: _, ⟨false, _⟩ :: _ => contradiction
  | top :: below, ⟨true, commas⟩ :: outer =>
    cases hafter
    exact .comma text offset hunwind

theorem turn_of_operator
    (h : step tables ⟨output, stack, frames, expect, previous, false⟩ ⟨.operator, text, offset⟩ = .ok next) :
    Turn tables ⟨output, stack, frames, expect, previous, false⟩ ⟨.operator, text, offset⟩ next := by
  obtain ⟨after, hafter, h⟩ := bind_eq_ok h
  cases h
  simp only [operator] at hafter
  split at hafter
  · contradiction
  · rename_i incoming hrule
    split at hafter
    · contradiction
    · rename_i hplace
      cases hafter
      exact .operator offset hrule (Bool.eq_false_iff.mpr hplace)

end

theorem turn_of_step {tables : Tables} {state next : State} {token : Token}
    (h : step tables state token = .ok next) : Turn tables state token next := by
  obtain ⟨output, stack, frames, expect, previous, call⟩ := state
  obtain ⟨kind, text, offset⟩ := token
  cases call with
  | true =>
    cases kind with
    | leftParen =>
      cases h
      exact .openParen true text offset
    | _ => contradiction
  | false =>
    cases kind with
    | number =>
      obtain ⟨after, hafter, h⟩ := bind_eq_ok h
      cases h
      simp only [number] at hafter
      split at hafter
      · rename_i value hvalue
        cases hafter
        exact .number offset hvalue
      · contradiction
    | identifier => exact turn_of_identifier h
    | operator => exact turn_of_operator h
    | leftParen =>
      cases h
      exact .openParen false text offset
    | rightParen => exact turn_of_closeParen h
    | comma => exact turn_of_comma h

/-- What every turn keeps is kept by a whole run. -/
theorem kept_by_run {tables : Tables} {kept : State → Prop}
    (hturn : ∀ {state token next}, Turn tables state token next → kept state → kept next)
    {state final : State} {tokens : List Token} (hrun : run tables state tokens = .ok final)
    (h : kept state) : kept final := by
  unfold run at hrun
  induction tokens generalizing state with
  | nil =>
    cases hrun
    exact h
  | cons token rest ih =>
    obtain ⟨next, hstep, hrun⟩ := bind_eq_ok hrun
    exact ih hrun (hturn (turn_of_step hstep) h)

/-- Tokens that are parsed leave a state from which the rest is written. -/
theorem exists_run_of_ofTokens {tables : Tables} {tokens : List Token} {elements : List Postfix}
    (h : ofTokens tables tokens = .ok elements) : ∃ final, run tables {} tokens = .ok final ∧
      final.afterFunction = false ∧ flush final.output final.stack = .ok elements.reverse := by
  obtain ⟨⟨output, stack, frames, expect, previous, call⟩, hrun, hfinish⟩ := bind_eq_ok h
  cases call with
  | true => contradiction
  | false =>
    obtain ⟨written, hflush, hreverse⟩ := bind_eq_ok hfinish
    obtain rfl : written.reverse = elements := Except.ok.inj hreverse
    refine ⟨_, hrun, rfl, ?_⟩
    rw [List.reverse_reverse]
    exact hflush

/-- Every open parenthesis on the stack has its frame, and the mark of a function stands below the
parenthesis of its call and nowhere else. -/
inductive Matched : List Entry → List Frame → Prop
  | empty : Matched [] []
  | operator {stack frames} (rule : OperatorRule) (offset : Int) (below : Matched stack frames) :
    Matched (.operator rule offset :: stack) frames
  | group {stack frames} (offset : Int) (commas : Nat) (below : Matched stack frames) :
    Matched (.paren offset :: stack) (⟨false, commas⟩ :: frames)
  | call {stack frames} (offset : Int) (name : String) (place : Int) (commas : Nat)
    (below : Matched stack frames) :
    Matched (.paren offset :: .function name place :: stack) (⟨true, commas⟩ :: frames)

/-- The stack is matched by the frames, but for a function that has been named last. -/
def State.IsMatched (state : State) : Prop :=
  match state.afterFunction, state.stack with
  | false, stack => Matched stack state.frames
  | true, .function _ _ :: below => Matched below state.frames
  | true, _ => False

/-- Unwinding a matched stack ends at its innermost parenthesis, or at its bottom if there is none. -/
theorem unwind_of_matched {stack : List Entry} {frames : List Frame} (h : Matched stack frames)
    (output : List Postfix) : ∃ written rest, unwind output stack = .ok (written, rest) ∧
      Matched rest frames ∧ ∀ rule offset below, rest ≠ .operator rule offset :: below := by
  induction h generalizing output with
  | empty => exact ⟨output, [], rfl, .empty, by simp⟩
  | operator rule offset below ih => exact ih (.operator rule.symbol :: output)
  | group offset commas below ih => exact ⟨output, _, rfl, .group offset commas below, by simp⟩
  | call offset name place commas below ih =>
    exact ⟨output, _, rfl, .call offset name place commas below, by simp⟩

theorem matched_of_unwind {stack rest : List Entry} {frames : List Frame} {output written : List Postfix}
    (h : Matched stack frames) (hunwind : unwind output stack = .ok (written, rest)) :
    Matched rest frames ∧ ∀ rule offset below, rest ≠ .operator rule offset :: below := by
  obtain ⟨written', rest', hunwind', hrest⟩ := unwind_of_matched h output
  rw [hunwind] at hunwind'
  cases hunwind'
  exact hrest

theorem matched_giveWay {stack : List Entry} {frames : List Frame} (incoming : OperatorRule)
    (h : Matched stack frames) (output : List Postfix) :
    Matched (giveWay incoming output stack).2 frames := by
  induction h generalizing output with
  | empty => exact .empty
  | operator rule offset below ih =>
    rw [giveWay]
    split
    · exact ih _
    · exact .operator rule offset below
  | group offset commas below ih => exact .group offset commas below
  | call offset name place commas below ih => exact .call offset name place commas below

theorem Turn.isMatched {tables : Tables} {state next : State} {token : Token}
    (h : Turn tables state token next) (hm : state.IsMatched) : next.IsMatched := by
  cases h with
  | number offset hvalue => exact hm
  | function offset hrule => exact hm
  | constant offset hrule hvalue => exact hm
  | @openParen output stack frames expect previous call text offset =>
    cases call with
    | false => exact .group offset 0 hm
    | true =>
      match stack, hm with
      | .function name place :: below, hm => exact .call offset name place 0 hm
  | closeGroup text offset hunwind =>
    obtain ⟨hrest, hop⟩ := matched_of_unwind hm hunwind
    cases hrest with
    | operator rule place below => exact absurd rfl (hop rule place _)
    | group place commas below => exact below
  | closeCall text offset hunwind =>
    obtain ⟨hrest, hop⟩ := matched_of_unwind hm hunwind
    cases hrest with
    | operator rule place below => exact absurd rfl (hop rule place _)
    | call place name place' commas below => exact below
  | comma text offset hunwind =>
    obtain ⟨hrest, hop⟩ := matched_of_unwind hm hunwind
    cases hrest with
    | operator rule place below => exact absurd rfl (hop rule place _)
    | call place name place' commas below => exact .call place name place' _ below
  | operator offset hrule hplace => exact .operator _ offset (matched_giveWay _ hm _)

theorem isMatched_of_run {tables : Tables} {state final : State} {tokens : List Token}
    (hrun : run tables state tokens = .ok final) (h : state.IsMatched) : final.IsMatched :=
  kept_by_run (fun hturn => hturn.isMatched) hrun h

/-- A stack that is written to the end has no open parenthesis. -/
theorem frames_of_flush {stack : List Entry} {frames : List Frame} {output written : List Postfix}
    (h : Matched stack frames) (hflush : flush output stack = .ok written) : frames = [] := by
  induction h generalizing output with
  | empty => rfl
  | operator rule offset below ih => exact ih hflush
  | group offset commas below ih => contradiction
  | call offset name place commas below ih => contradiction

end SciCalc.Postfix.Parser
