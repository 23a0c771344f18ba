import SciCalc.Proofs.LexedTokens
import SciCalc.Proofs.LexerSteps
import SciCalc.Proofs.ParserFrames
import SciCalc.Proofs.ParserSteps

/-!
# Offending tokens

Whether a token offends is seen from the tokens before it. The parser reports the first token that does, and at
the end a function name without arguments or the innermost parenthesis that is still open.
-/

namespace SciCalc

namespace Token

def isFunctionName (token : Token) : Bool :=
  token.kind == .identifier && (Tables.standard.function? token.text).isSome

def isKnownName (token : Token) : Bool :=
  (Tables.standard.function? token.text).isSome || (Tables.standard.constant? token.text).isSome

/-- The last of the tokens, which are given latest first, if it is the name of a function. -/
def lastName? (earlier : List Token) : Option Token := earlier.head?.filter isFunctionName

/-- Behind the tokens, which are given latest first, an operand has to come. -/
def asksOperand (earlier : List Token) : Bool :=
  match earlier.head? with
  | none => true
  | some last =>
    last.kind == .leftParen || last.kind == .comma || (last.kind == .operator && last.text != "%")

/-- Goes back over the tokens, which are given latest first, to a parenthesis that is open behind them: the
innermost one if `inner` is zero, else the one around so many others. The tokens before it are also given. -/
def opening? (inner : Nat) : List Token → Option (Token × List Token)
  | [] => none
  | token :: earlier =>
    match token.kind, inner with
    | .leftParen, 0 => some (token, earlier)
    | .leftParen, inner + 1 => opening? inner earlier
    | .rightParen, _ => opening? (inner + 1) earlier
    | _, _ => opening? inner earlier

/-- The innermost open parenthesis holds the arguments of a call. -/
def inCall (earlier : List Token) : Bool :=
  match opening? 0 earlier with
  | some (_, before) => (lastName? before).isSome
  | none => false

/-- What is wrong with a token behind the tokens `earlier`, which are given latest first. -/
def offence? (earlier : List Token) (token : Token) : Option Fault :=
  match lastName? earlier, token.kind with
  | some _, .leftParen => none
  | some name, _ => some (.mismatchedParenthesis name.offset)
  | none, .identifier =>
    if token.isKnownName then none else some (.unknownIdentifier token.text token.offset)
  | none, .rightParen =>
    if (opening? 0 earlier).isSome then none else some (.mismatchedParenthesis token.offset)
  | none, .comma => if inCall earlier then none else some (.misplacedComma token.offset)
  | none, .operator =>
    if token.text = "%" && asksOperand earlier then some (.missingOperand token.text token.offset) else none
  | none, .number | none, .leftParen => none

/-- What is missing behind the tokens, which are given latest first. -/
def ending? (earlier : List Token) : Option Fault :=
  match lastName? earlier with
  | some name => some (.mismatchedParenthesis name.offset)
  | none => (opening? 0 earlier).map fun found => .mismatchedParenthesis found.1.offset

/-- None of the tokens that follow `earlier` offends. -/
def IsSound (earlier tokens : List Token) : Prop :=
  ∀ before token after, tokens = before ++ token :: after → offence? (before.reverse ++ earlier) token = none

theorem isSound_nil (earlier : List Token) : IsSound earlier [] := by
  intro before token after h
  simp at h

theorem isSound_cons {earlier : List Token} {token : Token} {rest : List Token} :
    IsSound earlier (token :: rest) ↔ offence? earlier token = none ∧ IsSound (token :: earlier) rest := by
  constructor
  · intro h
    refine ⟨h [] token rest rfl, fun before later after hrest => ?_⟩
    have hlater := h (token :: before) later after (by rw [hrest, List.cons_append])
    simpa using hlater
  · rintro ⟨hfirst, hrest⟩ before later after h
    cases before with
    | nil =>
      obtain ⟨rfl, rfl⟩ := List.cons.inj h
      exact hfirst
    | cons first before =>
      obtain ⟨rfl, hback⟩ := List.cons.inj h
      simpa using hrest before later after hback

/-- No token offends, or one of them is the first that does. -/
theorem isSound_or_exists_offence (earlier tokens : List Token) : IsSound earlier tokens ∨
    ∃ before token after fault, tokens = before ++ token :: after ∧ IsSound earlier before ∧
      offence? (before.reverse ++ earlier) token = some fault := by
  induction tokens generalizing earlier with
  | nil => exact Or.inl (isSound_nil earlier)
  | cons first rest ih =>
    cases hfirst : offence? earlier first with
    | some fault => exact Or.inr ⟨[], first, rest, fault, rfl, isSound_nil earlier, hfirst⟩
    | none =>
      rcases ih (first :: earlier) with hrest | ⟨before, token, after, fault, rfl, hbefore, hfault⟩
      · exact Or.inl (isSound_cons.mpr ⟨hfirst, hrest⟩)
      · refine Or.inr ⟨first :: before, token, after, fault, rfl, isSound_cons.mpr ⟨hfirst, hbefore⟩, ?_⟩
        simpa using hfault

theorem opening?_of_kind_ne {token : Token} (hopen : token.kind ≠ .leftParen) (hclose : token.kind ≠ .rightParen)
    (inner : Nat) (earlier : List Token) : opening? inner (token :: earlier) = opening? inner earlier := by
  obtain ⟨kind, text, offset⟩ := token
  cases kind with
  | leftParen => exact absurd rfl hopen
  | rightParen => exact absurd rfl hclose
  | number | identifier | operator | comma => rfl

theorem lastName?_cons (token : Token) (earlier : List Token) :
    lastName? (token :: earlier) = if token.isFunctionName then some token else none := rfl

end Token

namespace Postfix.Parser

open Token

/-- The places of the open parentheses on a stack, the innermost first. -/
def parens (stack : List Entry) : List Int :=
  stack.filterMap fun entry => match entry with
    | .paren offset => some offset
    | .operator .. | .function .. => none

theorem parens_unwind {stack rest : List Entry} {output written : List Postfix}
    (h : unwind output stack = .ok (written, rest)) : parens rest = parens stack := by
  induction stack generalizing output with
  | nil =>
    cases h
    rfl
  | cons entry below ih =>
    cases entry with
    | operator rule offset => exact ih h
    | function name offset => contradiction
    | paren offset =>
      cases h
      rfl

theorem parens_giveWay (incoming : OperatorRule) (output : List Postfix) (stack : List Entry) :
    parens (giveWay incoming output stack).2 = parens stack := by
  induction stack generalizing output with
  | nil => rfl
  | cons entry below ih =>
    cases entry with
    | operator rule offset =>
      rw [giveWay]
      split
      · exact ih _
      · rfl
    | function name offset => rfl
    | paren offset => rfl

/-- The state of the parser behind tokens, which are given latest first, as far as it can be seen from them. -/
structure Standing (earlier : List Token) (state : State) : Prop where
  matched : state.IsMatched
  named : ∀ name, lastName? earlier = some name →
    state.afterFunction = true ∧ bareFunction state.stack = .fault (.mismatchedParenthesis name.offset)
  unnamed : lastName? earlier = none →
    state.afterFunction = false ∧ state.expectOperand = asksOperand earlier
  places : ∀ inner, (opening? inner earlier).map (fun found => found.1.offset) = (parens state.stack)[inner]?
  calls : ∀ inner, (opening? inner earlier).map (fun found => (lastName? found.2).isSome) =
    (state.frames.map Frame.isCall)[inner]?

theorem operator?_spelled {text : String} (h : text ∈ operatorTexts) (expect : Bool) : ∃ rule,
    Tables.standard.operator? (if text = "-" && expect then Operator.negSymbol else text) = some rule ∧
    (rule.arity == 1 && !rule.isPrefix) = (text == "%") := by
  have hrule (op : Operator) := Tables.operator?_symbol op
  simp only [operatorTexts, List.mem_cons, List.not_mem_nil, or_false] at h
  rcases h with rfl | rfl | rfl | rfl | rfl | rfl
  · exact ⟨_, hrule (.binary .add), rfl⟩
  · cases expect with
    | true => exact ⟨_, hrule (.unary .neg), rfl⟩
    | false => exact ⟨_, hrule (.binary .sub), rfl⟩
  · exact ⟨_, hrule (.binary .mul), rfl⟩
  · exact ⟨_, hrule (.binary .div), rfl⟩
  · exact ⟨_, hrule (.binary .pow), rfl⟩
  · exact ⟨_, hrule (.unary .percent), rfl⟩

section

variable {earlier : List Token} {token : Token} {state next : State}

/-- Whether an operand has to come is seen from the last token. -/
theorem Turn.asksOperand (h : Turn .standard state token next) (earlier : List Token)
    (hcall : next.afterFunction = false) : next.expectOperand = Token.asksOperand (token :: earlier) := by
  cases h with
  | number offset hvalue => rfl
  | function offset hrule => contradiction
  | constant offset hrule hvalue => rfl
  | openParen call text offset => rfl
  | closeGroup text offset hunwind => rfl
  | closeCall text offset hunwind => rfl
  | comma text offset hunwind => rfl
  | @operator output stack frames expect previous text incoming offset hrule hplace =>
    obtain ⟨op, hsymbol, rfl⟩ := Tables.exists_operator hrule
    by_cases hsign : (text = "-" && expect) = true
    · rw [if_pos hsign] at hsymbol
      have hfound : Operator.ofSymbol? op.symbol = some (.unary .neg) := by
        rw [← hsymbol]
        rfl
      obtain rfl : op = .unary .neg := Option.some.inj ((Operator.ofSymbol?_symbol op).symm.trans hfound)
      obtain rfl : text = "-" := of_decide_eq_true (Bool.and_eq_true_iff.mp hsign).1
      rfl
    · rw [if_neg hsign] at hsymbol
      subst hsymbol
      rcases op with op | op <;> cases op <;> rfl

theorem Standing.start : Standing [] {} where
  matched := .empty
  named _ h := by contradiction
  unnamed _ := ⟨rfl, rfl⟩
  places _ := rfl
  calls _ := rfl

theorem Standing.afterFunction (h : Standing earlier state) :
    state.afterFunction = (lastName? earlier).isSome := by
  cases hname : lastName? earlier with
  | some name => exact (h.named name hname).1
  | none => exact (h.unnamed hname).1

/-- A token that neither names a function nor is a parenthesis changes nothing else that can be seen. -/
theorem Standing.next_of_plain (h : Standing earlier state) (hmatched : next.IsMatched)
    (hname : token.isFunctionName = false) (hopen : token.kind ≠ .leftParen) (hclose : token.kind ≠ .rightParen)
    (hcall : next.afterFunction = false) (hexpect : next.expectOperand = asksOperand (token :: earlier))
    (hparens : parens next.stack = parens state.stack)
    (hcalls : next.frames.map Frame.isCall = state.frames.map Frame.isCall) :
    Standing (token :: earlier) next where
  matched := hmatched
  named name hlast := by
    rw [lastName?_cons, hname] at hlast
    contradiction
  unnamed _ := ⟨hcall, hexpect⟩
  places inner := by
    rw [hparens, ← h.places inner, opening?_of_kind_ne hopen hclose]
  calls inner := by
    rw [hcalls, ← h.calls inner, opening?_of_kind_ne hopen hclose]

/-- A closing parenthesis takes away the innermost open one. -/
theorem Standing.next_of_close (h : Standing earlier state) (hmatched : next.IsMatched)
    (hclose : token.kind = .rightParen) (hcall : next.afterFunction = false) (hexpect : next.expectOperand = false)
    (hparens : parens next.stack = (parens state.stack).tail) (hframes : next.frames = state.frames.tail) :
    Standing (token :: earlier) next := by
  obtain ⟨kind, text, offset⟩ := token
  obtain rfl : kind = .rightParen := hclose
  refine ⟨hmatched, fun name hlast => by contradiction, fun _ => ⟨hcall, hexpect⟩, ?_, ?_⟩
  · intro inner
    rw [hparens, List.getElem?_tail]
    exact h.places (inner + 1)
  · intro inner
    rw [hframes, List.map_tail, List.getElem?_tail]
    exact h.calls (inner + 1)

theorem Standing.next_of_turn (h : Standing earlier state) (hturn : Turn .standard state token next) :
    Standing (token :: earlier) next := by
  have hmatched : next.IsMatched := hturn.isMatched h.matched
  have hasks := hturn.asksOperand earlier
  cases hturn with
  | number offset hvalue =>
    exact h.next_of_plain hmatched rfl (by simp) (by simp) rfl rfl rfl rfl
  | @function output stack frames expect previous text rule offset hrule =>
    have hname : isFunctionName ⟨.identifier, text, offset⟩ = true := by
      simp [isFunctionName, hrule]
    refine ⟨hmatched, ?_, ?_, h.places, h.calls⟩
    · intro name hlast
      rw [lastName?_cons, if_pos hname] at hlast
      cases hlast
      exact ⟨rfl, rfl⟩
    · intro hlast
      rw [lastName?_cons, if_pos hname] at hlast
      contradiction
  | constant offset hrule hvalue =>
    exact h.next_of_plain hmatched (by simp [isFunctionName, hrule]) (by simp) (by simp) rfl rfl rfl rfl
  | @openParen output stack frames expect previous call text offset =>
    refine ⟨hmatched, fun name hlast => by contradiction, fun _ => ⟨rfl, rfl⟩, ?_, ?_⟩
    · intro inner
      cases inner with
      | zero => rfl
      | succ inner => exact h.places inner
    · intro inner
      cases inner with
      | zero => exact congrArg some h.afterFunction.symm
      | succ inner => exact h.calls inner
  | @closeGroup output stack commas frames expect previous written top below text offset hunwind =>
    obtain ⟨hrest, hop⟩ := matched_of_unwind h.matched hunwind
    have hparens := parens_unwind hunwind
    cases hrest with
    | operator rule place rest => exact absurd rfl (hop rule place _)
    | group place commas rest =>
      exact h.next_of_close hmatched rfl rfl rfl (congrArg List.tail hparens) rfl
  | @closeCall output stack commas frames expect previous written top name place below text offset hunwind =>
    obtain ⟨hrest, hop⟩ := matched_of_unwind h.matched hunwind
    have hparens := parens_unwind hunwind
    cases hrest with
    | operator rule place rest => exact absurd rfl (hop rule place _)
    | call place name place' commas rest =>
      exact h.next_of_close hmatched rfl rfl rfl (congrArg List.tail hparens) rfl
  | @comma output stack commas frames expect previous written top below text offset hunwind =>
    exact h.next_of_plain hmatched rfl (by simp) (by simp) rfl rfl (parens_unwind hunwind) rfl
  | @operator output stack frames expect previous text incoming offset hrule hplace =>
    exact h.next_of_plain hmatched rfl (by simp) (by simp) rfl (hasks rfl) (parens_giveWay incoming output stack) rfl

theorem Standing.isSome_opening? (h : Standing earlier state) :
    (opening? 0 earlier).isSome = (state.frames.map Frame.isCall)[0]?.isSome := by
  rw [← h.calls 0, Option.isSome_map]

theorem Standing.inCall (h : Standing earlier state) :
    Token.inCall earlier = ((state.frames.map Frame.isCall)[0]?).getD false := by
  rw [← h.calls 0, Token.inCall]
  cases opening? 0 earlier <;> rfl

end

section

variable {output : List Postfix} {stack : List Entry} {frames : List Frame} (expect : Bool)
  (previous : Option Token.Kind) (text : String) (offset : Int)

/-- A closing parenthesis is a fault exactly if none is open. -/
theorem step_close_cases (h : Matched stack frames) :
    (frames = [] ∧ step .standard ⟨output, stack, frames, expect, previous, false⟩ ⟨.rightParen, text, offset⟩ =
      .error (.fault (.mismatchedParenthesis offset))) ∨
    (frames ≠ [] ∧ ∃ next,
      step .standard ⟨output, stack, frames, expect, previous, false⟩ ⟨.rightParen, text, offset⟩ = .ok next) := by
  obtain ⟨written, rest, hunwind, hrest, hop⟩ := unwind_of_matched h output
  simp only [step, closeParen, hunwind]
  cases hrest with
  | empty => exact Or.inl ⟨rfl, rfl⟩
  | operator rule place below => exact absurd rfl (hop rule place _)
  | group place commas below => exact Or.inr ⟨List.cons_ne_nil _ _, _, rfl⟩
  | call place name place' commas below => exact Or.inr ⟨List.cons_ne_nil _ _, _, rfl⟩

/-- A comma is a fault exactly if the innermost open parenthesis is not that of a call. -/
theorem step_comma_cases (h : Matched stack frames) :
    (((frames.map Frame.isCall)[0]?).getD false = false ∧
      step .standard ⟨output, stack, frames, expect, previous, false⟩ ⟨.comma, text, offset⟩ =
        .error (.fault (.misplacedComma offset))) ∨
    (((frames.map Frame.isCall)[0]?).getD false = true ∧ ∃ next,
      step .standard ⟨output, stack, frames, expect, previous, false⟩ ⟨.comma, text, offset⟩ = .ok next) := by
  obtain ⟨written, rest, hunwind, hrest, hop⟩ := unwind_of_matched h output
  simp only [step, comma, hunwind]
  cases hrest with
  | empty => exact Or.inl ⟨rfl, rfl⟩
  | operator rule place below => exact absurd rfl (hop rule place _)
  | group place commas below => exact Or.inl ⟨rfl, rfl⟩
  | call place name place' commas below => exact Or.inr ⟨rfl, _, rfl⟩

/-- An operator is a fault exactly if it is a percent sign where an operand has to come. -/
theorem step_operator_cases (h : text ∈ operatorTexts) :
    ((text = "%" && expect) = true ∧
      step .standard ⟨output, stack, frames, expect, previous, false⟩ ⟨.operator, text, offset⟩ =
        .error (.fault (.missingOperand text offset))) ∨
    ((text = "%" && expect) = false ∧ ∃ next,
      step .standard ⟨output, stack, frames, expect, previous, false⟩ ⟨.operator, text, offset⟩ = .ok next) := by
  obtain ⟨rule, hrule, hpercent⟩ := operator?_spelled h expect
  by_cases hfault : text = "%" ∧ expect = true
  · obtain ⟨rfl, rfl⟩ := hfault
    exact Or.inl ⟨rfl, rfl⟩
  · have hplace : (rule.arity == 1 && !rule.isPrefix && expect) = false := by
      rw [hpercent]
      simpa using hfault
    have hstep : step .standard ⟨output, stack, frames, expect, previous, false⟩ ⟨.operator, text, offset⟩ =
        .ok ⟨(giveWay rule output stack).1, .operator rule offset :: (giveWay rule output stack).2, frames,
          rule.arity == 2 || rule.isPrefix, some .operator, false⟩ := by
      simp only [step, operator, hrule, hplace]
      rfl
    exact Or.inr ⟨by simpa using hfault, _, hstep⟩

end

/-- A token that offends is the fault that the parser reports, and any other token is taken. -/
theorem Standing.step_cases {earlier : List Token} {state : State} {token : Token}
    (h : Standing earlier state) (hspelled : token.IsSpelled) :
    (∃ fault, offence? earlier token = some fault ∧ step .standard state token = .error (.fault fault)) ∨
    (offence? earlier token = none ∧ ∃ next, step .standard state token = .ok next) := by
  obtain ⟨output, stack, frames, expect, previous, call⟩ := state
  obtain ⟨kind, text, offset⟩ := token
  cases hlast : lastName? earlier with
  | some name =>
    obtain ⟨rfl, hbare⟩ : call = true ∧ bareFunction stack = .fault (.mismatchedParenthesis name.offset) :=
      h.named name hlast
    cases kind with
    | leftParen => exact Or.inr ⟨by simp only [offence?, hlast], _, rfl⟩
    | number | identifier | operator | rightParen | comma =>
      refine Or.inl ⟨.mismatchedParenthesis name.offset, by simp only [offence?, hlast], ?_⟩
      rw [← hbare]
      rfl
  | none =>
    obtain ⟨rfl, rfl⟩ : call = false ∧ expect = asksOperand earlier := h.unnamed hlast
    cases kind with
    | number =>
      exact Or.inr ⟨by simp only [offence?, hlast], _, step_number hspelled offset⟩
    | leftParen => exact Or.inr ⟨by simp only [offence?, hlast], _, rfl⟩
    | identifier =>
      cases hfunction : Tables.standard.function? text with
      | some rule =>
        exact Or.inr ⟨by simp [offence?, hlast, isKnownName, hfunction], _, step_function hfunction offset⟩
      | none =>
        cases hconstant : Tables.standard.constant? text with
        | some value =>
          exact Or.inr ⟨by simp [offence?, hlast, isKnownName, hconstant], _, step_constant hconstant offset⟩
        | none =>
          refine Or.inl ⟨.unknownIdentifier text offset,
            by simp [offence?, hlast, isKnownName, hfunction, hconstant], ?_⟩
          simp only [step, identifier, hfunction, hconstant]
          rfl
    | rightParen =>
      have hopen := h.isSome_opening?
      simp only [offence?, hlast, hopen]
      rcases step_close_cases (asksOperand earlier) previous text offset h.matched with
        ⟨rfl, hstep⟩ | ⟨hframes, hstep⟩
      · exact Or.inl ⟨_, rfl, hstep⟩
      · obtain ⟨frame, outer, rfl⟩ := List.exists_cons_of_ne_nil hframes
        exact Or.inr ⟨rfl, hstep⟩
    | comma =>
      simp only [offence?, hlast, h.inCall]
      rcases step_comma_cases (asksOperand earlier) previous text offset h.matched with
        ⟨hcall, hstep⟩ | ⟨hcall, hstep⟩
      · exact Or.inl ⟨_, by rw [hcall]; rfl, hstep⟩
      · exact Or.inr ⟨by rw [hcall]; rfl, hstep⟩
    | operator =>
      simp only [offence?, hlast]
      rcases step_operator_cases (asksOperand earlier) previous text offset hspelled with
        ⟨hfault, hstep⟩ | ⟨hfault, hstep⟩
      · exact Or.inl ⟨_, if_pos hfault, hstep⟩
      · exact Or.inr ⟨if_neg (Bool.eq_false_iff.mp hfault), hstep⟩

/-- Sound tokens are all taken. -/
theorem Standing.run {earlier tokens : List Token} {state : State} (h : Standing earlier state)
    (hspelled : ∀ token ∈ tokens, token.IsSpelled) (hsound : IsSound earlier tokens) :
    ∃ final, Parser.run .standard state tokens = .ok final ∧ Standing (tokens.reverse ++ earlier) final := by
  -- behind each token the parser stands as the tokens up to it tell
  induction tokens generalizing earlier state with
  | nil => exact ⟨state, rfl, h⟩
  | cons token rest ih =>
    obtain ⟨hfirst, hrest⟩ := isSound_cons.mp hsound
    have htoken : token.IsSpelled := hspelled token List.mem_cons_self
    rcases h.step_cases htoken with ⟨fault, hfault, -⟩ | ⟨-, next, hstep⟩
    · rw [hfirst] at hfault
      contradiction
    · have hnext := h.next_of_turn (turn_of_step hstep)
      obtain ⟨final, hrun, hfinal⟩ := ih hnext (fun t ht => hspelled t (List.mem_cons_of_mem token ht)) hrest
      refine ⟨final, ?_, by simpa using hfinal⟩
      unfold Parser.run at hrun ⊢
      rw [List.foldlM_cons, hstep, ok_bind, hrun]

/-- What is left on the stack is written unless a parenthesis is open. -/
theorem flush_of_matched {stack : List Entry} {frames : List Frame} (h : Matched stack frames)
    (output : List Postfix) :
    (parens stack = [] ∧ ∃ written, flush output stack = .ok written) ∨
    ∃ offset outer, parens stack = offset :: outer ∧
      flush output stack = .error (.fault (.mismatchedParenthesis offset)) := by
  induction h generalizing output with
  | empty => exact Or.inl ⟨rfl, output, rfl⟩
  | operator rule offset below ih => exact ih _
  | group offset commas below ih => exact Or.inr ⟨offset, _, rfl, rfl⟩
  | call offset name place commas below ih => exact Or.inr ⟨offset, _, rfl, rfl⟩

theorem Standing.finish_cases {earlier : List Token} {state : State} (h : Standing earlier state) :
    (∃ fault, ending? earlier = some fault ∧ finish state = .error (.fault fault)) ∨
    (ending? earlier = none ∧ ∃ elements, finish state = .ok elements) := by
  obtain ⟨output, stack, frames, expect, previous, call⟩ := state
  cases hlast : lastName? earlier with
  | some name =>
    obtain ⟨rfl, hbare⟩ : call = true ∧ bareFunction stack = .fault (.mismatchedParenthesis name.offset) :=
      h.named name hlast
    refine Or.inl ⟨.mismatchedParenthesis name.offset, by simp only [ending?, hlast], ?_⟩
    rw [← hbare]
    rfl
  | none =>
    obtain ⟨rfl, -⟩ : call = false ∧ expect = asksOperand earlier := h.unnamed hlast
    have hending : ending? earlier =
        ((parens stack)[0]?).map Fault.mismatchedParenthesis := by
      rw [← h.places 0, Option.map_map, ending?, hlast]
      rfl
    rcases flush_of_matched h.matched output with ⟨hparens, written, hflush⟩ | ⟨offset, outer, hparens, hflush⟩
    · refine Or.inr ⟨by rw [hending, hparens]; rfl, written.reverse, ?_⟩
      simp only [finish, hflush]
      rfl
    · refine Or.inl ⟨.mismatchedParenthesis offset, by rw [hending, hparens]; rfl, ?_⟩
      simp only [finish, hflush]
      rfl

end Postfix.Parser

namespace Postfix

open Token Postfix.Parser

section

variable {tokens : List Token} (hspelled : ∀ token ∈ tokens, token.IsSpelled)
include hspelled

theorem ofTokens_of_offence {before after : List Token} {token : Token} {fault : Fault}
    (h : tokens = before ++ token :: after) (hsound : IsSound [] before)
    (hfault : offence? before.reverse token = some fault) :
    ofTokens .standard tokens = .error (.fault fault) := by
  subst h
  obtain ⟨state, hrun, hstanding⟩ :=
    Standing.start.run (fun t ht => hspelled t (List.mem_append_left _ ht)) hsound
  rw [List.append_nil] at hstanding
  rcases hstanding.step_cases (hspelled token (by simp)) with ⟨fault', hfault', hstep⟩ | ⟨hnone, -⟩
  · obtain rfl : fault = fault' := Option.some.inj (hfault.symm.trans hfault')
    unfold Parser.run at hrun
    rw [ofTokens, Parser.run, foldlM_append_ok hrun, List.foldlM_cons, hstep, error_bind, error_bind]
  · rw [hfault] at hnone
    contradiction

/-- Behind sound tokens the end decides. -/
theorem ofTokens_of_isSound (hsound : IsSound [] tokens) :
    (∃ fault, ending? tokens.reverse = some fault ∧ ofTokens .standard tokens = .error (.fault fault)) ∨
    (ending? tokens.reverse = none ∧ ∃ elements, ofTokens .standard tokens = .ok elements) := by
  obtain ⟨state, hrun, hstanding⟩ := Standing.start.run hspelled hsound
  rw [List.append_nil] at hstanding
  rw [ofTokens, hrun, ok_bind]
  exact hstanding.finish_cases

end

/-- The parser fails at the first token that offends, with the fault of that token. If none does it fails with
what is missing behind the last token, and if nothing is missing it succeeds. -/
theorem ofTokens_of_first_offence {text : String} {tokens : List Token} (hlex : lex text = .ok tokens) :
    (∀ before token after fault, tokens = before ++ token :: after → IsSound [] before →
      offence? before.reverse token = some fault → ofTokens .standard tokens = .error (.fault fault)) ∧
    (∀ fault, IsSound [] tokens → ending? tokens.reverse = some fault →
      ofTokens .standard tokens = .error (.fault fault)) ∧
    (IsSound [] tokens → ending? tokens.reverse = none → ∃ elements, ofTokens .standard tokens = .ok elements) ∧
    (IsSound [] tokens ∨ ∃ before token after fault, tokens = before ++ token :: after ∧ IsSound [] before ∧
      offence? before.reverse token = some fault) := by
  have hspelled := isSpelled_of_lex hlex
  refine ⟨?_, ?_, ?_, ?_⟩
  · intro before token after fault htokens hsound hfault
    exact ofTokens_of_offence hspelled htokens hsound hfault
  · intro fault hsound hfault
    rcases ofTokens_of_isSound hspelled hsound with ⟨fault', hfault', herror⟩ | ⟨hnone, -⟩
    · rw [hfault] at hfault'
      cases hfault'
      exact herror
    · rw [hfault] at hnone
      contradiction
  · intro hsound hnone
    rcases ofTokens_of_isSound hspelled hsound with ⟨fault, hfault, -⟩ | ⟨-, helements⟩
    · rw [hnone] at hfault
      contradiction
    · exact helements
  · simpa using isSound_or_exists_offence [] tokens

/-- In `(1,x` the comma offends before the unknown name and the open parenthesis do. In `sin((1` nothing offends, but
the inner parenthesis is still open; in `sin(1)` nothing is missing. -/
theorem ofTokens_of_first_offence_comma_in_group :
    (lex "(1,x" = .ok [⟨.leftParen, "(", 0⟩, ⟨.number, "1", 1⟩, ⟨.comma, ",", 2⟩, ⟨.identifier, "x", 3⟩] ∧
      IsSound [] [⟨.leftParen, "(", 0⟩, ⟨.number, "1", 1⟩] ∧
      offence? [⟨.number, "1", 1⟩, ⟨.leftParen, "(", 0⟩] ⟨.comma, ",", 2⟩ = some (.misplacedComma 2) ∧
      ofTokens .standard [⟨.leftParen, "(", 0⟩, ⟨.number, "1", 1⟩, ⟨.comma, ",", 2⟩, ⟨.identifier, "x", 3⟩] =
        .error (.fault (.misplacedComma 2))) ∧
    (lex "sin((1" = .ok [⟨.identifier, "sin", 0⟩, ⟨.leftParen, "(", 3⟩, ⟨.leftParen, "(", 4⟩, ⟨.number, "1", 5⟩] ∧
      IsSound [] [⟨.identifier, "sin", 0⟩, ⟨.leftParen, "(", 3⟩, ⟨.leftParen, "(", 4⟩, ⟨.number, "1", 5⟩] ∧
      ofTokens .standard
          [⟨.identifier, "sin", 0⟩, ⟨.leftParen, "(", 3⟩, ⟨.leftParen, "(", 4⟩, ⟨.number, "1", 5⟩] =
        .error (.fault (.mismatchedParenthesis 4))) ∧
    (lex "sin(1)" = .ok [⟨.identifier, "sin", 0⟩, ⟨.leftParen, "(", 3⟩, ⟨.number, "1", 4⟩, ⟨.rightParen, ")", 5⟩] ∧
      IsSound [] [⟨.identifier, "sin", 0⟩, ⟨.leftParen, "(", 3⟩, ⟨.number, "1", 4⟩, ⟨.rightParen, ")", 5⟩] ∧
      ∃ elements, ofTokens .standard
          [⟨.identifier, "sin", 0⟩, ⟨.leftParen, "(", 3⟩, ⟨.number, "1", 4⟩, ⟨.rightParen, ")", 5⟩] =
        .ok elements) := by
  have hone : IsNumeral ['1'] := isNumeral_digit rfl
  have hx : Spells 3 ['x'] [⟨.identifier, "x", 3⟩] := fun _ hrest =>
    lexFrom_name rfl (List.forall_mem_nil _) hrest 3
  have hsin := spells_functionName (.unary .sin) 0
  have hcomma : lex "(1,x" =
      .ok [⟨.leftParen, "(", 0⟩, ⟨.number, "1", 1⟩, ⟨.comma, ",", 2⟩, ⟨.identifier, "x", 3⟩] :=
    lex_of_spells ((spells_numeral hone 1).append rfl hx.comma).leftParen
  have hopen : lex "sin((1" =
      .ok [⟨.identifier, "sin", 0⟩, ⟨.leftParen, "(", 3⟩, ⟨.leftParen, "(", 4⟩, ⟨.number, "1", 5⟩] :=
    lex_of_spells (hsin.append rfl (spells_numeral hone 5).leftParen.leftParen)
  have hclosed : lex "sin(1)" =
      .ok [⟨.identifier, "sin", 0⟩, ⟨.leftParen, "(", 3⟩, ⟨.number, "1", 4⟩, ⟨.rightParen, ")", 5⟩] :=
    lex_of_spells (hsin.append rfl ((spells_numeral hone 4).append rfl (spells_rightParen 5)).leftParen)
  have hbefore : IsSound [] [⟨.leftParen, "(", 0⟩, ⟨.number, "1", 1⟩] := by
    simp only [isSound_cons, isSound_nil, and_true]
    exact ⟨rfl, rfl⟩
  have hinner : IsSound []
      [⟨.identifier, "sin", 0⟩, ⟨.leftParen, "(", 3⟩, ⟨.leftParen, "(", 4⟩, ⟨.number, "1", 5⟩] := by
    simp only [isSound_cons, isSound_nil, and_true]
    exact ⟨rfl, rfl, rfl, rfl⟩
  have hcall : IsSound []
      [⟨.identifier, "sin", 0⟩, ⟨.leftParen, "(", 3⟩, ⟨.number, "1", 4⟩, ⟨.rightParen, ")", 5⟩] := by
    simp only [isSound_cons, isSound_nil, and_true]
    exact ⟨rfl, rfl, rfl, rfl⟩
  refine ⟨⟨hcomma, hbefore, rfl, ?_⟩, ⟨hopen, hinner, ?_⟩, ⟨hclosed, hcall, ?_⟩⟩
  · exact (ofTokens_of_first_offence hcomma).1 _ ⟨.comma, ",", 2⟩ [⟨.identifier, "x", 3⟩] _ rfl hbefore rfl
  · exact (ofTokens_of_first_offence hopen).2.1 _ hinner rfl
  · exact (ofTokens_of_first_offence hclosed).2.2.1 hcall rfl

end Postfix

end SciCalc
