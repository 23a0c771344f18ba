import SciCalc.Proofs.ParserFrames
import SciCalc.Proofs.Placement

/-!
# Beginnings of derivations

How the tokens that have been read can be the beginning of what a derivation spells: parentheses that are
open, each with what leads to it, and behind the innermost one what leads an operand or ends with one.
-/

namespace SciCalc

open Token (Place)
open Postfix.Parser (Frame)

namespace Infix

/-- Some derivation of a sum ends with any signed operand that is put behind the tokens. -/
def Leads (lead : List Token) : Prop :=
  ∀ operand : Infix .signed, ∃ longer : Infix .sum, longer.tokens = lead ++ operand.tokens

theorem leads_nil : Leads [] :=
  fun operand => ⟨.product (.signed operand), rfl⟩

theorem Leads.minus {lead : List Token} (h : Leads lead) (offset : Int) :
    Leads (lead ++ [⟨.operator, "-", offset⟩]) := by
  intro operand
  obtain ⟨longer, hlonger⟩ := h (.minus offset operand)
  exact ⟨longer, by rw [hlonger, tokens, List.append_assoc, List.singleton_append]⟩

/-- The last power of a phrase can be raised to any signed operand. -/
theorem exists_raised {level : Level} (phrase : Infix level) (offset : Int) (exponent : Infix .signed)
    (hlevel : level = .sum ∨ level = .product ∨ level = .signed ∨ level = .power) :
    ∃ longer : Infix level, longer.tokens = phrase.tokens ++ ⟨.operator, "^", offset⟩ :: exponent.tokens := by
  induction phrase with
  | product only ih =>
    obtain ⟨longer, hlonger⟩ := ih (by simp)
    exact ⟨.product longer, hlonger⟩
  | sum left op hop place right ihl ihr =>
    obtain ⟨longer, hlonger⟩ := ihr (by simp)
    exact ⟨.sum left op hop place longer, by simp [tokens, hlonger]⟩
  | signed only ih =>
    obtain ⟨longer, hlonger⟩ := ih (by simp)
    exact ⟨.signed longer, hlonger⟩
  | times left op hop place right ihl ihr =>
    obtain ⟨longer, hlonger⟩ := ihr (by simp)
    exact ⟨.times left op hop place longer, by simp [tokens, hlonger]⟩
  | minus place inner ih =>
    obtain ⟨longer, hlonger⟩ := ih (by simp)
    exact ⟨.minus place longer, by simp [tokens, hlonger]⟩
  | unsigned only ih =>
    obtain ⟨longer, hlonger⟩ := ih (by simp)
    exact ⟨.unsigned longer, hlonger⟩
  | base only ih => exact ⟨.raised only offset exponent, rfl⟩
  | raised lower place inner ihl ihe =>
    obtain ⟨longer, hlonger⟩ := ihe (by simp)
    exact ⟨.raised lower place longer, by simp [tokens, hlonger]⟩
  | _ => simp at hlevel

/-- Behind a sum and a binary operator the sum goes on, however tightly the operator binds. -/
theorem leads_binary (before : Infix .sum) (op : BinaryOperator) (offset : Int) :
    Leads (before.tokens ++ [⟨.operator, (Operator.binary op).symbol, offset⟩]) := by
  intro operand
  rw [List.append_assoc, List.singleton_append]
  -- a sum or difference begins a new summand; a product goes on with the last summand, a power with the
  -- last operand of all
  cases op with
  | add => exact ⟨.sum before .add (Or.inl rfl) offset (.signed operand), rfl⟩
  | sub => exact ⟨.sum before .sub (Or.inr rfl) offset (.signed operand), rfl⟩
  | mul =>
    cases before with
    | product only => exact ⟨.product (.times only .mul (Or.inl rfl) offset operand), rfl⟩
    | sum left op hop place right =>
      exact ⟨.sum left op hop place (.times right .mul (Or.inl rfl) offset operand), by simp [tokens]⟩
  | div =>
    cases before with
    | product only => exact ⟨.product (.times only .div (Or.inr rfl) offset operand), rfl⟩
    | sum left op hop place right =>
      exact ⟨.sum left op hop place (.times right .div (Or.inr rfl) offset operand), by simp [tokens]⟩
  | pow => exact exists_raised before offset operand (Or.inl rfl)

theorem Leads.value {lead : List Token} (h : Leads lead) (value : Infix .percent) :
    ∃ longer : Infix .sum, longer.tokens = lead ++ value.tokens :=
  h (.unsigned (.base value))

/-- Tokens behind which an operand may begin in parentheses that are still open, one for each frame. Whatever
stands before the innermost of them leads an operand, which the parenthesis begins or a call with it. -/
inductive Opened : List Frame → List Token → Prop
  | none : Opened [] []
  | group {frames outer lead} (houter : Opened frames outer) (hlead : Leads lead) (commas : Nat)
    (first : Int) : Opened (⟨false, commas⟩ :: frames) (outer ++ lead ++ [⟨.leftParen, "(", first⟩])
  | call {frames outer lead} (houter : Opened frames outer) (hlead : Leads lead) {text : String}
    {rule : FunctionRule} (hrule : Tables.standard.function? text = some rule) (offset first : Int) :
    Opened (⟨true, 0⟩ :: frames)
      (outer ++ lead ++ [⟨.identifier, text, offset⟩, ⟨.leftParen, "(", first⟩])
  | comma {frames outer lead} (houter : Opened frames outer) (hlead : Leads lead) {text : String}
    {rule : FunctionRule} (hrule : Tables.standard.function? text = some rule) (commas : Nat)
    (offset first : Int) (arguments : Infix .arguments) (last : Int) :
    Opened (⟨true, commas + 1⟩ :: frames)
      (outer ++ lead ++ ⟨.identifier, text, offset⟩ :: ⟨.leftParen, "(", first⟩ :: arguments.tokens ++
        [⟨.comma, ",", last⟩])

/-- A sum and a closing parenthesis complete an operand. -/
theorem Opened.close {frame : Frame} {frames : List Frame} {read : List Token}
    (h : Opened (frame :: frames) read) (inner : Infix .sum) (last : Int) :
    ∃ outer lead, ∃ operand : Infix .operand, Opened frames outer ∧ Leads lead ∧
      read ++ inner.tokens ++ [⟨.rightParen, ")", last⟩] = outer ++ lead ++ operand.tokens := by
  cases h with
  | group houter hlead commas first =>
    exact ⟨_, _, .group first inner last, houter, hlead, by simp [tokens]⟩
  | call houter hlead hrule offset first =>
    exact ⟨_, _, .call _ _ hrule offset first (.argument inner) last, houter, hlead, by simp [tokens]⟩
  | comma houter hlead hrule commas offset first arguments place =>
    exact ⟨_, _, .call _ _ hrule offset first (.comma arguments place inner) last, houter, hlead,
      by simp [tokens]⟩

/-- A sum and a comma complete an argument. -/
theorem Opened.next {commas : Nat} {frames : List Frame} {read : List Token}
    (h : Opened (⟨true, commas⟩ :: frames) read) (inner : Infix .sum) (last : Int) :
    Opened (⟨true, commas + 1⟩ :: frames) (read ++ inner.tokens ++ [⟨.comma, ",", last⟩]) := by
  cases h with
  | call houter hlead hrule offset first =>
    have hnext := Opened.comma houter hlead hrule 0 offset first (.argument inner) last
    simpa [tokens] using hnext
  | comma houter hlead hrule commas offset first arguments place =>
    have hnext := Opened.comma houter hlead hrule (commas + 1) offset first (.comma arguments place inner) last
    simpa [tokens] using hnext

/-- The tokens that have been read begin a derivation, and the place behind them is the place in it. -/
inductive Begun : Place → List Frame → List Token → Prop
  | operand {frames outer lead} (houter : Opened frames outer) (hlead : Leads lead) :
    Begun .operand frames (outer ++ lead)
  | arguments {frames outer lead} (houter : Opened frames outer) (hlead : Leads lead) {text : String}
    {rule : FunctionRule} (hrule : Tables.standard.function? text = some rule) (offset first : Int) :
    Begun .arguments (⟨true, 0⟩ :: frames)
      (outer ++ lead ++ [⟨.identifier, text, offset⟩, ⟨.leftParen, "(", first⟩])
  | name {frames outer lead} (houter : Opened frames outer) (hlead : Leads lead) {text : String}
    {rule : FunctionRule} (hrule : Tables.standard.function? text = some rule) (offset : Int) :
    Begun .name frames (outer ++ lead ++ [⟨.identifier, text, offset⟩])
  | value {frames outer lead} (houter : Opened frames outer) (hlead : Leads lead)
    (value : Infix .percent) : Begun .value frames (outer ++ lead ++ value.tokens)

theorem Begun.exists_opened {place : Place} {frames : List Frame} {read : List Token}
    (h : Begun place frames read) (hplace : place.Begins) :
    ∃ outer lead, Opened frames outer ∧ Leads lead ∧ read = outer ++ lead := by
  cases h with
  | operand houter hlead => exact ⟨_, _, houter, hlead, rfl⟩
  | arguments houter hlead hrule offset first =>
    exact ⟨_, [], .call houter hlead hrule offset first, leads_nil, (List.append_nil _).symm⟩
  | name houter hlead hrule offset => rcases hplace with h | h <;> contradiction
  | value houter hlead value => rcases hplace with h | h <;> contradiction

/-- An operand where one may begin. -/
theorem Begun.behind_operand {place : Place} {frames : List Frame} {read : List Token}
    (h : Begun place frames read) (hplace : place.Begins) (operand : Infix .operand) :
    Begun .value frames (read ++ operand.tokens) := by
  obtain ⟨outer, lead, houter, hlead, rfl⟩ := h.exists_opened hplace
  exact .value houter hlead (.operand operand)

theorem Begun.behind_sign {place : Place} {frames : List Frame} {read : List Token}
    (h : Begun place frames read) (hplace : place.Begins) (offset : Int) :
    Begun .operand frames (read ++ [⟨.operator, "-", offset⟩]) := by
  obtain ⟨outer, lead, houter, hlead, rfl⟩ := h.exists_opened hplace
  rw [List.append_assoc]
  exact .operand houter (hlead.minus offset)

/-- The value behind which a place stands ends a sum, which leads an operand behind a binary operator. -/
theorem Begun.behind_binary {frames : List Frame} {read : List Token} (h : Begun .value frames read)
    (op : BinaryOperator) (offset : Int) :
    Begun .operand frames (read ++ [⟨.operator, (Operator.binary op).symbol, offset⟩]) := by
  cases h with
  | value houter hlead value =>
    obtain ⟨longer, hlonger⟩ := hlead.value value
    have hnext := Begun.operand houter (leads_binary longer op offset)
    rw [hlonger] at hnext
    simpa using hnext

/-- A closing parenthesis behind a value. -/
theorem Opened.behind_close {frame : Frame} {frames : List Frame} {outer lead : List Token}
    (h : Opened (frame :: frames) outer) (hlead : Leads lead) (value : Infix .percent) (last : Int) :
    Begun .value frames (outer ++ lead ++ value.tokens ++ [⟨.rightParen, ")", last⟩]) := by
  obtain ⟨inner, hinner⟩ := hlead.value value
  obtain ⟨outer', lead', operand, houter', hlead', htokens⟩ := h.close inner last
  rw [hinner, ← List.append_assoc] at htokens
  rw [htokens]
  exact .value houter' hlead' (.operand operand)

theorem Begun.behind_percent {frames : List Frame} {read : List Token} (h : Begun .value frames read)
    (offset : Int) : Begun .value frames (read ++ [⟨.operator, "%", offset⟩]) := by
  cases h with
  | value houter hlead value =>
    rw [List.append_assoc]
    exact .value houter hlead (.percent value offset)

end Infix

end SciCalc
