import Mathlib.Data.List.Forall2
import SciCalc.Expression
import SciCalc.Proofs.Attempt

/-!
# Tokens that are alike

The parser looks names up in lower case, and places are nothing to it but parts of its faults. Tokens that differ in
places and in the case of names have the same postfix form or faults of one kind.
-/

namespace SciCalc

/-- Failures of one class: faults of one kind, or a failure and itself. -/
inductive Failure.IsLike : Failure → Failure → Prop
  | fault {fault fault' : Fault} (h : fault.kind = fault'.kind) : IsLike (.fault fault) (.fault fault')
  | same (failure : Failure) : IsLike failure failure

/-- Both have values, which are related, or both fail, with failures of one class. -/
inductive EndAlike {α β : Type} (R : α → β → Prop) : Except Failure α → Except Failure β → Prop
  | ok {a : α} {b : β} (h : R a b) : EndAlike R (.ok a) (.ok b)
  | error {failure failure' : Failure} (h : failure.IsLike failure') : EndAlike R (.error failure) (.error failure')

theorem EndAlike.refl {α : Type} (x : Except Failure α) : EndAlike Eq x x := by
  cases x with
  | ok a => exact .ok rfl
  | error failure => exact .error (.same failure)

theorem EndAlike.bind {α β γ δ : Type} {R : α → β → Prop} {S : γ → δ → Prop} {x : Except Failure α}
    {y : Except Failure β} {f : α → Except Failure γ} {g : β → Except Failure δ} (h : EndAlike R x y)
    (hnext : ∀ a b, R a b → EndAlike S (f a) (g b)) : EndAlike S (x >>= f) (y >>= g) := by
  cases h with
  | ok h => exact hnext _ _ h
  | error h => exact .error h

/-- The same token, wherever it stands and whatever the case of a name. -/
structure Token.IsAlike (token token' : Token) : Prop where
  kind : token'.kind = token.kind
  text : token.kind ≠ .identifier → token'.text = token.text
  lower : Text.lower token'.text = Text.lower token.text

namespace Postfix

namespace Parser

inductive Entry.IsAlike : Entry → Entry → Prop
  | operator (rule : OperatorRule) (offset offset' : Int) : IsAlike (.operator rule offset) (.operator rule offset')
  | function (name : String) (offset offset' : Int) : IsAlike (.function name offset) (.function name offset')
  | paren (offset offset' : Int) : IsAlike (.paren offset) (.paren offset')

/-- The same state but for the places on the stack. -/
inductive State.IsAlike : State → State → Prop
  | intro {stack stack' : List Entry} (output : List Postfix) (hstack : List.Forall₂ Entry.IsAlike stack stack')
    (frames : List Frame) (expect : Bool) (previous : Option Token.Kind) (call : Bool) :
    IsAlike ⟨output, stack, frames, expect, previous, call⟩ ⟨output, stack', frames, expect, previous, call⟩

/-- The same output and the same stack but for the places. -/
def LeaveAlike (left left' : List Postfix × List Entry) : Prop :=
  left.1 = left'.1 ∧ List.Forall₂ Entry.IsAlike left.2 left'.2

section

variable {tables : Tables} {stack stack' : List Entry} {state state' : State} {token token' : Token}

theorem unwind_alike (h : List.Forall₂ Entry.IsAlike stack stack') (output : List Postfix) :
    EndAlike LeaveAlike (unwind output stack) (unwind output stack') := by
  induction h generalizing output with
  | nil => exact .ok ⟨rfl, .nil⟩
  | cons hentry hrest ih =>
    cases hentry with
    | operator rule offset offset' => exact ih _
    | function name offset offset' => exact .error (.same _)
    | paren offset offset' => exact .ok ⟨rfl, .cons (.paren offset offset') hrest⟩

theorem giveWay_alike (h : List.Forall₂ Entry.IsAlike stack stack') (incoming : OperatorRule)
    (output : List Postfix) : LeaveAlike (giveWay incoming output stack) (giveWay incoming output stack') := by
  induction h generalizing output with
  | nil => exact ⟨rfl, .nil⟩
  | cons hentry hrest ih =>
    cases hentry with
    | operator rule offset offset' =>
      rw [giveWay, giveWay]
      split
      · exact ih _
      · exact ⟨rfl, .cons (.operator rule offset offset') hrest⟩
    | function name offset offset' => exact ⟨rfl, .cons (.function name offset offset') hrest⟩
    | paren offset offset' => exact ⟨rfl, .cons (.paren offset offset') hrest⟩

theorem flush_alike (h : List.Forall₂ Entry.IsAlike stack stack') (output : List Postfix) :
    EndAlike Eq (flush output stack) (flush output stack') := by
  induction h generalizing output with
  | nil => exact .ok rfl
  | cons hentry hrest ih =>
    cases hentry with
    | operator rule offset offset' => exact ih _
    | function name offset offset' => exact .error (.same _)
    | paren offset offset' => exact .error (.fault rfl)

theorem bareFunction_alike (h : List.Forall₂ Entry.IsAlike stack stack') :
    (bareFunction stack).IsLike (bareFunction stack') := by
  cases h with
  | nil => exact .same _
  | cons hentry hrest => exact .fault rfl

theorem number_alike (h : state.IsAlike state') (htoken : token'.text = token.text) :
    EndAlike State.IsAlike (number state token) (number state' token') := by
  cases h with
  | intro output hstack frames expect previous call =>
    simp only [number, htoken]
    split
    · exact .ok (.intro _ hstack frames false previous call)
    · exact .error (.same _)

theorem identifier_alike (h : state.IsAlike state') (htoken : Text.lower token'.text = Text.lower token.text) :
    EndAlike State.IsAlike (identifier tables state token) (identifier tables state' token') := by
  cases h with
  | intro output hstack frames expect previous call =>
    simp only [identifier, Tables.function?, Tables.constant?, htoken]
    split
    · exact .ok (.intro _ (.cons (.function _ _ _) hstack) frames true previous true)
    · split
      · exact .ok (.intro _ hstack frames false previous call)
      · exact .error (.fault rfl)

theorem openParen_alike (h : state.IsAlike state') (call : Bool) :
    EndAlike State.IsAlike (openParen call state token) (openParen call state' token') := by
  cases h with
  | intro output hstack frames expect previous after =>
    exact .ok (.intro _ (.cons (.paren _ _) hstack) _ true previous after)

theorem closeParen_alike (h : state.IsAlike state') :
    EndAlike State.IsAlike (closeParen state token) (closeParen state' token') := by
  cases h with
  | intro output hstack frames expect previous call =>
    refine (unwind_alike hstack output).bind ?_
    rintro ⟨written, rest⟩ ⟨written', rest'⟩ ⟨hwritten, hrest⟩
    obtain rfl : written = written' := hwritten
    cases hrest with
    | nil => exact .error (.fault rfl)
    | cons htop hbelow =>
      match frames with
      | [] => exact .error (.same _)
      | ⟨false, commas⟩ :: outer => exact .ok (.intro _ hbelow outer false previous call)
      | ⟨true, commas⟩ :: outer =>
        cases hbelow with
        | nil => exact .error (.same _)
        | cons hname hrest =>
          cases hname with
          | function name offset offset' => exact .ok (.intro _ hrest outer false previous call)
          | operator rule offset offset' => exact .error (.same _)
          | paren offset offset' => exact .error (.same _)

theorem comma_alike (h : state.IsAlike state') :
    EndAlike State.IsAlike (comma state token) (comma state' token') := by
  cases h with
  | intro output hstack frames expect previous call =>
    refine (unwind_alike hstack output).bind ?_
    rintro ⟨written, rest⟩ ⟨written', rest'⟩ ⟨hwritten, hrest⟩
    obtain rfl : written = written' := hwritten
    cases hrest with
    | nil => exact .error (.fault rfl)
    | cons htop hbelow =>
      match frames with
      | [] => exact .error (.same _)
      | ⟨false, commas⟩ :: outer => exact .error (.fault rfl)
      | ⟨true, commas⟩ :: outer => exact .ok (.intro _ (.cons htop hbelow) _ true previous call)

theorem operator_alike (h : state.IsAlike state') (htoken : token'.text = token.text) :
    EndAlike State.IsAlike (operator tables state token) (operator tables state' token') := by
  cases h with
  | intro output hstack frames expect previous call =>
    simp only [operator, htoken]
    generalize (if token.text = "-" && expect then Operator.negSymbol else token.text) = symbol
    cases tables.operator? symbol with
    | none => exact .error (.same _)
    | some incoming =>
      dsimp only
      by_cases hplace : (incoming.arity == 1 && !incoming.isPrefix && expect) = true
      · rw [if_pos hplace, if_pos hplace]
        exact .error (.fault rfl)
      · obtain ⟨houtput, hleft⟩ := giveWay_alike hstack incoming output
        rw [if_neg hplace, if_neg hplace, houtput]
        exact .ok (.intro _ (.cons (.operator _ _ _) hleft) frames _ previous call)

/-- Steps on tokens that are alike lead to states that are alike, or to failures of one class. -/
theorem step_alike (h : state.IsAlike state') (htoken : token.IsAlike token') :
    EndAlike State.IsAlike (step tables state token) (step tables state' token') := by
  obtain ⟨hkind, htext, hlower⟩ := htoken
  cases h with
  | intro output hstack frames expect previous call =>
    simp only [step, hkind]
    by_cases hbare : (call && token.kind != .leftParen) = true
    · rw [if_pos hbare, if_pos hbare]
      exact .error (bareFunction_alike hstack)
    · rw [if_neg hbare, if_neg hbare]
      have hstart : State.IsAlike ⟨output, _, frames, expect, previous, false⟩
          ⟨output, _, frames, expect, previous, false⟩ := .intro output hstack frames expect previous false
      have hmark (kind : Token.Kind) : ∀ next next' : State, next.IsAlike next' → EndAlike State.IsAlike
          (.ok { next with previous := some kind }) (.ok { next' with previous := some kind }) := by
        rintro _ _ ⟨output, hstack, frames, expect, previous, call⟩
        exact .ok (.intro output hstack frames expect (some kind) call)
      cases hkind' : token.kind with
      | number => exact (number_alike hstart (htext (by simp [hkind']))).bind (hmark _)
      | identifier => exact (identifier_alike hstart hlower).bind (hmark _)
      | leftParen => exact (openParen_alike hstart call).bind (hmark _)
      | rightParen => exact (closeParen_alike hstart).bind (hmark _)
      | comma => exact (comma_alike hstart).bind (hmark _)
      | operator => exact (operator_alike hstart (htext (by simp [hkind']))).bind (hmark _)

theorem run_alike {tokens tokens' : List Token} (h : state.IsAlike state')
    (htokens : List.Forall₂ Token.IsAlike tokens tokens') :
    EndAlike State.IsAlike (run tables state tokens) (run tables state' tokens') := by
  induction htokens generalizing state state' with
  | nil => exact .ok h
  | cons htoken hrest ih => exact (step_alike h htoken).bind fun next next' hnext => ih hnext

theorem finish_alike (h : state.IsAlike state') : EndAlike Eq (finish state) (finish state') := by
  cases h with
  | intro output hstack frames expect previous call =>
    cases call with
    | true => exact .error (bareFunction_alike hstack)
    | false =>
      refine (flush_alike hstack output).bind ?_
      rintro written _ rfl
      exact .ok rfl

end

end Parser

/-- Tokens that are alike have the same postfix form, or failures of one class. -/
theorem ofTokens_alike {tables : Tables} {tokens tokens' : List Token}
    (h : List.Forall₂ Token.IsAlike tokens tokens') :
    EndAlike Eq (ofTokens tables tokens) (ofTokens tables tokens') :=
  (Parser.run_alike (.intro [] .nil [] true none false) h).bind fun _ _ => Parser.finish_alike

end Postfix

end SciCalc
