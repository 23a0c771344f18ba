import SciCalc.Proofs.ParserFrames

/-!
# Isolated contents

What stands between parentheses, or between the commas of a call, is parsed as if it stood alone: the operators around
it wait below the open parenthesis, where nothing inside reaches them, and what is read later does not depend on what
has been written.
-/

namespace SciCalc.Postfix

namespace Parser

/-- The state with something written before all that it has written. -/
def State.behind (state : State) (earlier : List Postfix) : State :=
  { state with output := state.output ++ earlier }

/-- The state above an outer stack and its frames, behind what was written before. -/
def State.above (state : State) (output : List Postfix) (stack : List Entry) (frames : List Frame) : State :=
  { state with
    output := state.output ++ output
    stack := state.stack ++ stack
    frames := state.frames ++ frames }

/-- The converse of `turn_of_step`. -/
theorem Turn.step {tables : Tables} {state next : State} {token : Token} (h : Turn tables state token next) :
    step tables state token = .ok next := by
  cases h with
  | number offset hvalue =>
    simp only [Parser.step, Parser.number, hvalue]
    rfl
  | function offset hrule =>
    simp only [Parser.step, identifier, hrule]
    rfl
  | constant offset hrule hvalue =>
    simp only [Parser.step, identifier, hrule, hvalue]
    rfl
  | openParen call text offset => cases call <;> rfl
  | closeGroup text offset hunwind =>
    simp only [Parser.step, closeParen, hunwind]
    rfl
  | closeCall text offset hunwind =>
    simp only [Parser.step, closeParen, hunwind]
    rfl
  | comma text offset hunwind =>
    simp only [Parser.step, Parser.comma, hunwind]
    rfl
  | operator offset hrule hplace =>
    simp only [Parser.step, Parser.operator, hrule, hplace]
    rfl

theorem Turn.run {tables : Tables} {state next : State} {token : Token} (h : Turn tables state token next)
    (rest : List Token) : run tables state (token :: rest) = Parser.run tables next rest := by
  unfold Parser.run
  rw [List.foldlM_cons, h.step, ok_bind]

theorem run_append {tables : Tables} {state middle : State} {tokens : List Token}
    (h : run tables state tokens = .ok middle) (rest : List Token) :
    run tables state (tokens ++ rest) = run tables middle rest := foldlM_append_ok h

theorem run_append_error {tables : Tables} {state : State} {tokens : List Token} {failure : Failure}
    (h : run tables state tokens = .error failure) (rest : List Token) :
    run tables state (tokens ++ rest) = .error failure := by
  unfold run at h ⊢
  rw [List.foldlM_append, h, error_bind]

/-! ### What has been written does not matter -/

section

variable (tables : Tables) (output earlier : List Postfix)

theorem unwind_append (stack : List Entry) : unwind (output ++ earlier) stack =
    (unwind output stack).map fun unwound => (unwound.1 ++ earlier, unwound.2) := by
  induction stack generalizing output with
  | nil => rfl
  | cons entry below ih =>
    cases entry with
    | operator rule offset => exact ih (.operator rule.symbol :: output)
    | function name offset => rfl
    | paren offset => rfl

theorem giveWay_append (incoming : OperatorRule) (stack : List Entry) :
    giveWay incoming (output ++ earlier) stack =
      ((giveWay incoming output stack).1 ++ earlier, (giveWay incoming output stack).2) := by
  induction stack generalizing output with
  | nil => rfl
  | cons entry below ih =>
    cases entry with
    | operator top offset =>
      simp only [giveWay]
      split
      · exact ih (.operator top.symbol :: output)
      · rfl
    | function name offset => rfl
    | paren offset => rfl

theorem flush_append (stack : List Entry) :
    flush (output ++ earlier) stack = (flush output stack).map (· ++ earlier) := by
  induction stack generalizing output with
  | nil => rfl
  | cons entry below ih =>
    cases entry with
    | operator rule offset => exact ih (.operator rule.symbol :: output)
    | function name offset => rfl
    | paren offset => rfl

variable (state : State) (token : Token)

theorem number_behind : number (state.behind earlier) token = (number state token).map (·.behind earlier) := by
  simp only [number]
  cases Decimal.readFloat? token.text <;> rfl

theorem identifier_behind :
    identifier tables (state.behind earlier) token = (identifier tables state token).map (·.behind earlier) := by
  simp only [identifier]
  cases tables.function? token.text with
  | some rule => rfl
  | none => cases tables.constant? token.text <;> rfl

theorem closeParen_behind :
    closeParen (state.behind earlier) token = (closeParen state token).map (·.behind earlier) := by
  obtain ⟨output, stack, frames, expect, previous, call⟩ := state
  simp only [closeParen, State.behind, unwind_append]
  cases unwind output stack with
  | error failure => rfl
  | ok unwound =>
    match unwound, frames with
    | (_, []), _ => rfl
    | (_, _ :: _), [] => rfl
    | (_, _ :: _), ⟨false, _⟩ :: _ => rfl
    | (_, _ :: .function .. :: _), ⟨true, _⟩ :: _ => rfl
    | (_, [_]), ⟨true, _⟩ :: _ => rfl
    | (_, _ :: .operator .. :: _), ⟨true, _⟩ :: _ => rfl
    | (_, _ :: .paren _ :: _), ⟨true, _⟩ :: _ => rfl

theorem comma_behind : comma (state.behind earlier) token = (comma state token).map (·.behind earlier) := by
  obtain ⟨output, stack, frames, expect, previous, call⟩ := state
  simp only [comma, State.behind, unwind_append]
  cases unwind output stack with
  | error failure => rfl
  | ok unwound =>
    match unwound, frames with
    | (_, []), _ => rfl
    | (_, _ :: _), [] => rfl
    | (_, _ :: _), ⟨false, _⟩ :: _ => rfl
    | (_, _ :: _), ⟨true, _⟩ :: _ => rfl

theorem operator_behind :
    operator tables (state.behind earlier) token = (operator tables state token).map (·.behind earlier) := by
  dsimp only [operator, State.behind]
  simp only [giveWay_append]
  generalize (if token.text = "-" && state.expectOperand then Operator.negSymbol else token.text) = symbol
  cases tables.operator? symbol with
  | none => rfl
  | some incoming =>
    cases hplace : incoming.arity == 1 && !incoming.isPrefix && state.expectOperand <;>
      simp only [hplace, Bool.false_eq_true, if_true, if_false] <;> rfl

/-- A token is read alike, whatever has been written before. -/
theorem step_behind : step tables (state.behind earlier) token = (step tables state token).map (·.behind earlier) := by
  obtain ⟨output, stack, frames, expect, previous, call⟩ := state
  obtain ⟨kind, text, offset⟩ := token
  have hnote (read : Except Failure State) :
      ((read.map (·.behind earlier)) >>= fun next => pure { next with previous := some kind }) =
        (read >>= fun next => pure { next with previous := some kind }).map (·.behind earlier) := by
    cases read <;> rfl
  cases call with
  | true => cases kind <;> rfl
  | false =>
    cases kind with
    | number => exact (congrArg (· >>= _) (number_behind ..)).trans (hnote _)
    | identifier => exact (congrArg (· >>= _) (identifier_behind ..)).trans (hnote _)
    | operator => exact (congrArg (· >>= _) (operator_behind ..)).trans (hnote _)
    | leftParen => rfl
    | rightParen => exact (congrArg (· >>= _) (closeParen_behind ..)).trans (hnote _)
    | comma => exact (congrArg (· >>= _) (comma_behind ..)).trans (hnote _)

theorem run_behind (tokens : List Token) :
    run tables (state.behind earlier) tokens = (run tables state tokens).map (·.behind earlier) := by
  unfold run
  induction tokens generalizing state with
  | nil => rfl
  | cons token rest ih =>
    rw [List.foldlM_cons, List.foldlM_cons, step_behind]
    cases step tables state token with
    | error failure => rfl
    | ok next => exact ih next

theorem finish_behind :
    finish (state.behind earlier) = (finish state).map (earlier.reverse ++ ·) := by
  obtain ⟨output, stack, frames, expect, previous, call⟩ := state
  simp only [finish, State.behind, flush_append]
  cases call with
  | true => rfl
  | false =>
    cases flush output stack with
    | error failure => rfl
    | ok written =>
      show Except.ok (written ++ earlier).reverse = Except.ok (earlier.reverse ++ written.reverse)
      rw [List.reverse_append]

end

/-! ### What waits outside is out of reach -/

section

variable {tables : Tables} {output written earlier : List Postfix} {stack rest : List Entry} {top : Entry}

/-- Unwinding ends at the innermost parenthesis, whatever is below it. -/
theorem unwind_above (h : unwind output stack = .ok (written, top :: rest)) (earlier : List Postfix)
    (outer : List Entry) :
    unwind (output ++ earlier) (stack ++ outer) = .ok (written ++ earlier, top :: rest ++ outer) := by
  induction stack generalizing output with
  | nil => cases h
  | cons entry below ih =>
    cases entry with
    | operator rule offset => exact ih h
    | function name offset => contradiction
    | paren offset =>
      cases h
      rfl

/-- Operators give way only down to an open parenthesis. -/
theorem giveWay_above (incoming : OperatorRule) (output earlier : List Postfix) (stack outer : List Entry)
    (offset : Int) :
    giveWay incoming (output ++ earlier) (stack ++ .paren offset :: outer) =
      ((giveWay incoming output stack).1 ++ earlier,
        (giveWay incoming output stack).2 ++ .paren offset :: outer) := by
  induction stack generalizing output with
  | nil => rfl
  | cons entry below ih =>
    cases entry with
    | operator top place =>
      rw [List.cons_append, giveWay, giveWay]
      split
      · exact ih (.operator top.symbol :: output)
      · rfl
    | function name place => rfl
    | paren place => rfl

/-- What is written at the end of a text is written as well at the parenthesis or comma that ends an inner part. -/
theorem unwind_of_flush (h : flush output stack = .ok written) (earlier : List Postfix) (outer : List Entry)
    (offset : Int) :
    unwind (output ++ earlier) (stack ++ .paren offset :: outer) = .ok (written ++ earlier, .paren offset :: outer) := by
  induction stack generalizing output with
  | nil =>
    cases h
    rfl
  | cons entry below ih =>
    cases entry with
    | operator rule place => exact ih h
    | function name place => contradiction
    | paren place => contradiction

/-- A token is read above an open parenthesis as it is read alone. Only a closing parenthesis asks for the kind of the
token before, and it needs an open one. -/
theorem Turn.above {state next : State} {token : Token} (h : Turn tables state token next)
    {previous : Option Token.Kind} (hprevious : previous = state.previous ∨ state.frames = [])
    (earlier : List Postfix) (offset : Int) (outer : List Entry) (frames : List Frame) :
    Turn tables { state.above earlier (.paren offset :: outer) frames with previous } token
      (next.above earlier (.paren offset :: outer) frames) := by
  cases h with
  | number place hvalue => exact .number place hvalue
  | function place hrule => exact .function place hrule
  | constant place hrule hvalue => exact .constant place hrule hvalue
  | openParen call text place => exact .openParen call text place
  | closeGroup text place hunwind => exact .closeGroup text place (unwind_above hunwind earlier _)
  | closeCall text place hunwind =>
    obtain rfl : previous = _ := hprevious.resolve_right (List.cons_ne_nil _ _)
    exact .closeCall text place (unwind_above hunwind earlier _)
  | comma text place hunwind => exact .comma text place (unwind_above hunwind earlier _)
  | @operator output stack inner expect kind text incoming place hrule hplace =>
    have hturn : Turn tables ⟨output ++ earlier, stack ++ .paren offset :: outer, inner ++ frames, expect, previous,
        false⟩ ⟨.operator, text, place⟩ _ := .operator place hrule hplace
    rw [giveWay_above] at hturn
    exact hturn

theorem run_above {state final : State} {tokens : List Token} (hrun : run tables state tokens = .ok final)
    (previous : Option Token.Kind) (hprevious : previous = state.previous ∨ state.frames = [])
    (earlier : List Postfix) (offset : Int) (outer : List Entry) (frames : List Frame) :
    ∃ last, run tables { state.above earlier (.paren offset :: outer) frames with previous } tokens =
        .ok { final.above earlier (.paren offset :: outer) frames with previous := last } ∧
      (tokens = [] ∧ last = previous ∨ last = final.previous) := by
  induction tokens generalizing state previous with
  | nil =>
    cases hrun
    exact ⟨previous, rfl, Or.inl ⟨rfl, rfl⟩⟩
  | cons token rest ih =>
    obtain ⟨next, hstep, hrun⟩ := bind_eq_ok hrun
    have hturn := (turn_of_step hstep).above hprevious earlier offset outer frames
    obtain ⟨last, hlast, hkind⟩ := ih hrun next.previous (Or.inl rfl)
    refine ⟨last, (hturn.run rest).trans hlast, Or.inr ?_⟩
    rcases hkind with ⟨rfl, rfl⟩ | hkind
    · cases hrun
      rfl
    · exact hkind

end

end Parser

/-- The arguments of a call, so many with commas between them, each of which is parsed when it stands alone. -/
inductive AreArguments (tables : Tables) : List Token → Nat → List Postfix → Prop
  | only {argument : List Token} {elements : List Postfix} (h : ofTokens tables argument = .ok elements) :
    AreArguments tables argument 1 elements
  | comma {before argument : List Token} {count : Nat} {written elements : List Postfix} {comma : Token}
    (hbefore : AreArguments tables before count written) (hcomma : comma.kind = .comma)
    (h : ofTokens tables argument = .ok elements) :
    AreArguments tables (before ++ comma :: argument) (count + 1) (written ++ elements)

/-- Parentheses around tokens that are parsed when they stand alone. -/
inductive IsGroup (tables : Tables) : List Token → List Postfix → Prop
  | mk {first last : Token} {contents : List Token} {elements : List Postfix} (hfirst : first.kind = .leftParen)
    (hlast : last.kind = .rightParen) (hne : contents ≠ []) (h : ofTokens tables contents = .ok elements) :
    IsGroup tables (first :: contents ++ [last]) elements

/-- The name of a function with its arguments in parentheses. There are some, but each of several may be empty. -/
inductive IsCall (tables : Tables) : List Token → List Postfix → Prop
  | mk {name first last : Token} {rule : FunctionRule} {arguments : List Token} {count : Nat}
    {elements : List Postfix} (hname : name.kind = .identifier) (hrule : tables.function? name.text = some rule)
    (hfirst : first.kind = .leftParen) (hlast : last.kind = .rightParen) (hne : arguments ≠ [])
    (h : AreArguments tables arguments count elements) :
    IsCall tables (name :: first :: arguments ++ [last]) (elements ++ [.call rule.name (some count)])

/-- Whatever piece of the kind stands between the tokens, the parser fails with the same fault, or it writes what is
written for the piece between what is written for the tokens. -/
def Isolates (tables : Tables) (before after : List Token) (piece : List Token → List Postfix → Prop) : Prop :=
  (∃ failure, ∀ tokens elements, piece tokens elements →
    ofTokens tables (before ++ tokens ++ after) = .error failure) ∨
  ∃ earlier later, ∀ tokens elements, piece tokens elements →
    ofTokens tables (before ++ tokens ++ after) = .ok (earlier ++ elements ++ later)

namespace Parser

section

variable {tables : Tables}

/-- Behind an open parenthesis the tokens leave the stack as it is, but for operators that wait for its end. -/
def Fills (tables : Tables) (tokens : List Token) (elements : List Postfix) : Prop :=
  ∀ output offset stack frames previous, ∃ written waiting expect last,
    run tables ⟨output, .paren offset :: stack, frames, true, previous, false⟩ tokens =
      .ok ⟨written, waiting, frames, expect, last, false⟩ ∧
    unwind written waiting = .ok (elements.reverse ++ output, .paren offset :: stack) ∧
    (last = some .leftParen → tokens = [] ∧ previous = some .leftParen)

/-- A parenthesis that has just been opened is open. -/
theorem frames_ne_of_run {state final : State} {tokens : List Token} (hrun : run tables state tokens = .ok final)
    (h : state.previous = some .leftParen → state.frames ≠ []) :
    final.previous = some .leftParen → final.frames ≠ [] := by
  refine @kept_by_run tables (fun state => state.previous = some .leftParen → state.frames ≠ []) ?_ _ _ _ hrun h
  intro state token next hturn _
  cases hturn with
  | openParen => exact fun _ => List.cons_ne_nil _ _
  | number | function | constant | closeGroup | closeCall | comma | operator => simp

/-- Tokens that are parsed when they stand alone are parsed to the same elements in parentheses. -/
theorem fills_of_ofTokens {tokens : List Token} {elements : List Postfix}
    (h : ofTokens tables tokens = .ok elements) : Fills tables tokens elements := by
  intro output offset stack frames previous
  obtain ⟨⟨inner, rest, unclosed, expect, kind, call⟩, hrun, hname, hflush⟩ := exists_run_of_ofTokens h
  have hmatched := isMatched_of_run hrun Matched.empty
  obtain rfl : call = false := hname
  obtain rfl : unclosed = [] := frames_of_flush hmatched hflush
  obtain ⟨last, hlast, hkind⟩ := run_above hrun previous (Or.inr rfl) output offset stack frames
  refine ⟨inner ++ output, rest ++ .paren offset :: stack, expect, last, hlast,
    unwind_of_flush hflush output stack offset, fun hopen => ?_⟩
  rcases hkind with ⟨hnil, hsame⟩ | hsame
  · exact ⟨hnil, hsame.symm.trans hopen⟩
  · exact absurd rfl (frames_ne_of_run hrun (by simp) (hsame.symm.trans hopen))

/-- The arguments of a call are parsed one after the other, and their commas are counted. -/
theorem fills_arguments {tokens : List Token} {count : Nat} {elements : List Postfix}
    (h : AreArguments tables tokens count elements) (output : List Postfix) (offset : Int) (stack : List Entry)
    (frames : List Frame) (commas : Nat) (previous : Option Token.Kind) :
    ∃ written waiting expect last total,
      run tables ⟨output, .paren offset :: stack, ⟨true, commas⟩ :: frames, true, previous, false⟩ tokens =
        .ok ⟨written, waiting, ⟨true, total⟩ :: frames, expect, last, false⟩ ∧
      unwind written waiting = .ok (elements.reverse ++ output, .paren offset :: stack) ∧
      total + 1 = commas + count ∧
      (last = some .leftParen → tokens = [] ∧ previous = some .leftParen) := by
  induction h with
  | only h =>
    obtain ⟨written, waiting, expect, last, hrun, hunwind, hlast⟩ :=
      fills_of_ofTokens h output offset stack (⟨true, commas⟩ :: frames) previous
    exact ⟨written, waiting, expect, last, commas, hrun, hunwind, rfl, hlast⟩
  | @comma before argument count earlier elements comma hbefore hcomma h ih =>
    obtain ⟨written, waiting, expect, last, total, hrun, hunwind, htotal, -⟩ := ih
    obtain ⟨kind, text, place⟩ := comma
    obtain rfl : kind = .comma := hcomma
    obtain ⟨written', waiting', expect', last', hrun', hunwind', hlast'⟩ := fills_of_ofTokens h
      (earlier.reverse ++ output) offset stack (⟨true, total + 1⟩ :: frames) (some .comma)
    refine ⟨written', waiting', expect', last', total + 1, ?_, ?_, by omega, ?_⟩
    · rw [run_append hrun, Turn.run (.comma text place hunwind), hrun']
    · rw [hunwind', List.reverse_append, List.append_assoc]
    · intro hopen
      exact absurd (hlast' hopen).2 (by simp)

/-- What is left behind a group does not depend on what stands in it. -/
theorem run_group {state : State} (h : state.IsMatched) : ∃ behind : State, ∀ tokens elements,
    IsGroup tables tokens elements →
      run tables state tokens = .ok (behind.behind (elements.reverse ++ state.output)) := by
  obtain ⟨output, stack, frames, expect, previous, call⟩ := state
  cases call with
  | false =>
    refine ⟨⟨[], stack, frames, false, some .rightParen, false⟩, fun tokens elements hgroup => ?_⟩
    cases hgroup with
    | @mk first last contents elements hfirst hlast hne hcontents =>
      obtain ⟨kind, text, offset⟩ := first
      obtain ⟨kind', text', offset'⟩ := last
      obtain rfl : kind = .leftParen := hfirst
      obtain rfl : kind' = .rightParen := hlast
      obtain ⟨written, waiting, expect', last, hrun, hunwind, -⟩ :=
        fills_of_ofTokens hcontents output offset stack (⟨false, 0⟩ :: frames) (some .leftParen)
      rw [List.cons_append, Turn.run (.openParen false text offset), run_append hrun,
        Turn.run (.closeGroup text' offset' hunwind)]
      rfl
  | true =>
    match stack, h with
    | .function name place :: below, _ =>
      refine ⟨⟨[.call name (some 1)], below, frames, false, some .rightParen, false⟩,
        fun tokens elements hgroup => ?_⟩
      cases hgroup with
      | @mk first last contents elements hfirst hlast hne hcontents =>
        obtain ⟨kind, text, offset⟩ := first
        obtain ⟨kind', text', offset'⟩ := last
        obtain rfl : kind = .leftParen := hfirst
        obtain rfl : kind' = .rightParen := hlast
        obtain ⟨written, waiting, expect', last, hrun, hunwind, hkind⟩ := fills_of_ofTokens hcontents output offset
          (.function name place :: below) (⟨true, 0⟩ :: frames) (some .leftParen)
        rw [List.cons_append, Turn.run (.openParen true text offset), run_append hrun,
          Turn.run (.closeCall text' offset' hunwind), if_neg fun hopen => hne (hkind hopen).1]
        rfl

/-- What is left behind a call depends neither on its arguments nor on the function. -/
theorem run_call (state : State) :
    (∃ failure, ∀ tokens elements, IsCall tables tokens elements → run tables state tokens = .error failure) ∨
    ∃ behind : State, ∀ tokens elements, IsCall tables tokens elements →
      run tables state tokens = .ok (behind.behind (elements.reverse ++ state.output)) := by
  obtain ⟨output, stack, frames, expect, previous, call⟩ := state
  cases call with
  | true =>
    refine Or.inl ⟨bareFunction stack, fun tokens elements hcall => ?_⟩
    cases hcall with
    | @mk name first last rule arguments count elements hname =>
      obtain ⟨kind, text, offset⟩ := name
      obtain rfl : kind = .identifier := hname
      rfl
  | false =>
    refine Or.inr ⟨⟨[], stack, frames, false, some .rightParen, false⟩, fun tokens elements hcall => ?_⟩
    cases hcall with
    | @mk name first last rule arguments count elements hname hrule hfirst hlast hne harguments =>
      obtain ⟨kind, text, offset⟩ := name
      obtain ⟨kind', text', offset'⟩ := first
      obtain ⟨kind'', text'', offset''⟩ := last
      obtain rfl : kind = .identifier := hname
      obtain rfl : kind' = .leftParen := hfirst
      obtain rfl : kind'' = .rightParen := hlast
      obtain ⟨written, waiting, expect', last, total, hrun, hunwind, htotal, hkind⟩ := fills_arguments harguments
        output offset' (.function rule.name offset :: stack) frames 0 (some .leftParen)
      have hargc : (total : Int) + 1 = count := by omega
      rw [List.cons_append, List.cons_append, Turn.run (.function offset hrule),
        Turn.run (.openParen true text' offset'), run_append hrun, Turn.run (.closeCall text'' offset'' hunwind),
        if_neg fun hopen => hne (hkind hopen).1, hargc, List.reverse_append]
      rfl

/-- Tokens behind which the same is left, whatever the piece, are parsed alike. -/
theorem isolates_of_run {before after : List Token} {state behind : State} {piece : List Token → List Postfix → Prop}
    (hbefore : run tables {} before = .ok state)
    (hpiece : ∀ tokens elements, piece tokens elements →
      run tables state tokens = .ok (behind.behind (elements.reverse ++ state.output))) :
    Isolates tables before after piece := by
  have hparse (tokens elements) (h : piece tokens elements) : ofTokens tables (before ++ tokens ++ after) =
      ((run tables behind after) >>= finish).map fun later => state.output.reverse ++ elements ++ later := by
    have hrun : run tables {} (before ++ tokens ++ after) =
        (run tables behind after).map (·.behind (elements.reverse ++ state.output)) := by
      rw [List.append_assoc, run_append hbefore, run_append (hpiece tokens elements h), run_behind]
    rw [ofTokens, hrun]
    cases run tables behind after with
    | error failure => rfl
    | ok final =>
      show finish (final.behind (elements.reverse ++ state.output)) = _
      rw [finish_behind, List.reverse_append, List.reverse_reverse]
      rfl
  -- how the rest is parsed was settled before the piece was chosen
  cases hlater : (run tables behind after) >>= finish with
  | error failure =>
    refine Or.inl ⟨failure, fun tokens elements h => ?_⟩
    rw [hparse tokens elements h, hlater]
    rfl
  | ok later =>
    refine Or.inr ⟨state.output.reverse, later, fun tokens elements h => ?_⟩
    rw [hparse tokens elements h, hlater]
    rfl

theorem isolates_of_failure {before after : List Token} {failure : Failure} {piece : List Token → List Postfix → Prop}
    (h : ∀ tokens elements, piece tokens elements → run tables {} (before ++ tokens) = .error failure) :
    Isolates tables before after piece := by
  refine Or.inl ⟨failure, fun tokens elements hpiece => ?_⟩
  rw [ofTokens, run_append_error (h tokens elements hpiece), error_bind]

end

end Parser

open SciCalc.Postfix.Parser

/-- Whatever stands between the tokens `before` and `after` in parentheses or as the arguments of a call, if it is
parsed when it stands alone, is parsed to the same elements, and what is around it is parsed alike. -/
theorem ofTokens_isolates (tables : Tables) (before after : List Token) :
    Isolates tables before after (IsGroup tables) ∧ Isolates tables before after (IsCall tables) := by
  cases hbefore : Parser.run tables {} before with
  | error failure =>
    have hfail := run_append_error hbefore
    exact ⟨isolates_of_failure fun tokens _ _ => hfail tokens, isolates_of_failure fun tokens _ _ => hfail tokens⟩
  | ok state =>
    constructor
    · obtain ⟨behind, hgroup⟩ := run_group (isMatched_of_run hbefore .empty)
      exact isolates_of_run hbefore hgroup
    · rcases run_call state with ⟨failure, hcall⟩ | ⟨behind, hcall⟩
      · exact isolates_of_failure fun tokens elements h => (run_append hbefore tokens).trans (hcall tokens elements h)
      · exact isolates_of_run hbefore hcall

end SciCalc.Postfix
