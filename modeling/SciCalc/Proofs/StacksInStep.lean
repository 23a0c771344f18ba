import SciCalc.Proofs.ParserFrames

/-!
# Stack and frames in step

After every token, and while operators are taken from the stack, the frames are those of the open parentheses, and the
names of functions stand below the parentheses of their calls. So what is written from the stack are operators, and
whatever a closing parenthesis looks for is there.
-/

namespace SciCalc.Postfix.Parser

namespace Entry

def isParen : Entry → Bool
  | paren _ => true
  | operator .. | function .. => false

def isOperator : Entry → Bool
  | operator .. => true
  | function .. | paren _ => false

end Entry

/-- Stack and frames belong together; both begin with the innermost parenthesis. `named` tells that the last token is
the name of a function. -/
structure InStep (stack : List Entry) (frames : List Frame) (named : Prop) : Prop where
  count : stack.countP Entry.isParen = frames.length
  /-- The frame of a parenthesis is that of a call just if the name of a function stands below it. -/
  calls : ∀ above offset below, stack = above ++ .paren offset :: below →
    ∃ frame, frames[above.countP Entry.isParen]? = some frame ∧
      (frame.isCall = true ↔ ∃ name place rest, below = .function name place :: rest)
  /-- A parenthesis stands on every name that is not on top. -/
  names : ∀ above name place below, stack = above ++ .function name place :: below → above ≠ [] →
    ∃ upper offset, above = upper ++ [.paren offset]
  top : (∃ name place below, stack = .function name place :: below) ↔ named

section

variable {stack rest : List Entry} {frames : List Frame} {named : Prop}

theorem Matched.top_ne_function (h : Matched stack frames) (name : String) (place : Int) (below : List Entry) :
    stack ≠ .function name place :: below := by
  cases h <;> simp

theorem Matched.count (h : Matched stack frames) : stack.countP Entry.isParen = frames.length := by
  induction h with
  | empty => rfl
  | operator rule offset below ih => exact ih
  | group offset commas below ih => simpa [List.countP_cons, Entry.isParen] using ih
  | call offset name place commas below ih => simpa [List.countP_cons, Entry.isParen] using ih

theorem Matched.calls (h : Matched stack frames) {above below : List Entry} {offset : Int}
    (hstack : stack = above ++ .paren offset :: below) : ∃ frame, frames[above.countP Entry.isParen]? = some frame ∧
      (frame.isCall = true ↔ ∃ name place lower, below = .function name place :: lower) := by
  induction h generalizing above with
  | empty => simp at hstack
  | operator rule place inner ih =>
    rcases above with _ | ⟨entry, above⟩
    · simp at hstack
    · rw [List.cons_append, List.cons.injEq] at hstack
      obtain ⟨rfl, hstack⟩ := hstack
      have hframe := ih hstack
      exact hframe
  | group place commas inner ih =>
    rcases above with _ | ⟨entry, above⟩
    · rw [List.nil_append, List.cons.injEq] at hstack
      obtain ⟨-, rfl⟩ := hstack
      exact ⟨_, rfl, by simp [inner.top_ne_function]⟩
    · rw [List.cons_append, List.cons.injEq] at hstack
      obtain ⟨rfl, hstack⟩ := hstack
      simpa [List.countP_cons, Entry.isParen] using ih hstack
  | call place name place' commas inner ih =>
    rcases above with _ | ⟨entry, _ | ⟨entry', above⟩⟩
    · rw [List.nil_append, List.cons.injEq] at hstack
      obtain ⟨-, rfl⟩ := hstack
      exact ⟨_, rfl, by simp⟩
    · simp at hstack
    · rw [List.cons_append, List.cons_append, List.cons.injEq, List.cons.injEq] at hstack
      obtain ⟨rfl, rfl, hstack⟩ := hstack
      simpa [List.countP_cons, Entry.isParen] using ih hstack

theorem Matched.names (h : Matched stack frames) {above below : List Entry} {name : String} {place : Int}
    (hstack : stack = above ++ .function name place :: below) : ∃ upper offset, above = upper ++ [.paren offset] := by
  induction h generalizing above with
  | empty => simp at hstack
  | operator rule offset inner ih =>
    rcases above with _ | ⟨entry, above⟩
    · simp at hstack
    · rw [List.cons_append, List.cons.injEq] at hstack
      obtain ⟨upper, offset', rfl⟩ := ih hstack.2
      exact ⟨entry :: upper, offset', rfl⟩
  | group offset commas inner ih =>
    rcases above with _ | ⟨entry, above⟩
    · simp at hstack
    · rw [List.cons_append, List.cons.injEq] at hstack
      obtain ⟨upper, offset', rfl⟩ := ih hstack.2
      exact ⟨entry :: upper, offset', rfl⟩
  | call offset name' place' commas inner ih =>
    rcases above with _ | ⟨entry, _ | ⟨entry', above⟩⟩
    · simp at hstack
    · rw [List.cons_append, List.cons.injEq] at hstack
      exact ⟨[], offset, by rw [← hstack.1, List.nil_append]⟩
    · rw [List.cons_append, List.cons_append, List.cons.injEq, List.cons.injEq] at hstack
      obtain ⟨upper, offset', rfl⟩ := ih hstack.2.2
      exact ⟨entry :: entry' :: upper, offset', rfl⟩

theorem Matched.inStep (h : Matched stack frames) (hnamed : ¬named) : InStep stack frames named where
  count := h.count
  calls _ _ _ hstack := h.calls hstack
  names _ _ _ _ hstack _ := h.names hstack
  top := ⟨fun ⟨name, place, below, hstack⟩ => absurd hstack (h.top_ne_function name place below),
    fun hname => absurd hname hnamed⟩

/-- The name of a function that has just been read lies on a matched stack. -/
theorem Matched.inStep_name (h : Matched stack frames) (hnamed : named) (name : String) (place : Int) :
    InStep (.function name place :: stack) frames named where
  count := h.count
  calls above offset below hstack := by
    rcases above with _ | ⟨entry, above⟩
    · simp at hstack
    · rw [List.cons_append, List.cons.injEq] at hstack
      obtain ⟨rfl, hstack⟩ := hstack
      have hframe := h.calls hstack
      exact hframe
  names above name' place' below hstack hne := by
    rcases above with _ | ⟨entry, above⟩
    · contradiction
    · rw [List.cons_append, List.cons.injEq] at hstack
      obtain ⟨upper, offset, rfl⟩ := h.names hstack.2
      exact ⟨entry :: upper, offset, rfl⟩
  top := ⟨fun _ => hnamed, fun _ => ⟨name, place, stack, rfl⟩⟩

theorem State.IsMatched.inStep {state : State} (h : state.IsMatched) (hnamed : state.afterFunction = true ↔ named) :
    InStep state.stack state.frames named := by
  obtain ⟨output, stack, frames, expect, previous, call⟩ := state
  cases call with
  | false => exact Matched.inStep h (by simp [← hnamed])
  | true =>
    match stack, h with
    | .function name place :: below, h => exact Matched.inStep_name h (hnamed.mp rfl) name place

theorem InStep.pop {rule : OperatorRule} {offset : Int} (h : InStep (.operator rule offset :: stack) frames named) :
    InStep stack frames named where
  count := h.count
  calls above place below hstack := h.calls (_ :: above) place below (congrArg _ hstack)
  names above name place below hstack hne := by
    obtain ⟨upper, place', habove⟩ := h.names (_ :: above) name place below (congrArg _ hstack) (List.cons_ne_nil _ _)
    rcases upper with _ | ⟨entry, upper⟩
    · simp at habove
    · exact ⟨upper, place', (List.cons.inj habove).2⟩
  top := by
    refine ⟨fun ⟨name, place, below, hstack⟩ => ?_, fun hname => ?_⟩
    · obtain ⟨upper, place', habove⟩ := h.names [_] name place below (congrArg _ hstack) (List.cons_ne_nil _ _)
      rcases upper with _ | ⟨entry, upper⟩ <;> simp at habove
    · obtain ⟨name, place, below, hstack⟩ := h.top.mpr hname
      simp at hstack

/-- Taking operators from the stack leaves it in step. -/
theorem InStep.popAll {popped : List Entry} (h : InStep (popped ++ rest) frames named)
    (hpopped : ∀ entry ∈ popped, entry.isOperator = true) : InStep rest frames named := by
  induction popped with
  | nil => exact h
  | cons entry popped ih =>
    cases entry with
    | operator rule offset => exact ih h.pop (List.forall_mem_cons.mp hpopped).2
    | function name place => exact absurd (hpopped _ List.mem_cons_self) Bool.false_ne_true
    | paren offset => exact absurd (hpopped _ List.mem_cons_self) Bool.false_ne_true

/-- Above the innermost parenthesis, or on all of the stack if none is open, there are only operators. The parenthesis
has its frame, and that of a call its name. -/
def OnlyOperatorsAbove (stack : List Entry) (frames : List Frame) : Prop :=
  ∃ popped rest, stack = popped ++ rest ∧ (∀ entry ∈ popped, entry.isOperator = true) ∧
    (rest = [] ∨ ∃ offset below frame outer, rest = .paren offset :: below ∧ frames = frame :: outer ∧
      (frame.isCall = true → ∃ name place lower, below = .function name place :: lower))

theorem Matched.onlyOperatorsAbove (h : Matched stack frames) : OnlyOperatorsAbove stack frames := by
  induction h with
  | empty => exact ⟨[], [], rfl, List.forall_mem_nil _, Or.inl rfl⟩
  | operator rule offset below ih =>
    obtain ⟨popped, rest, rfl, hpopped, hrest⟩ := ih
    exact ⟨.operator rule offset :: popped, rest, rfl, List.forall_mem_cons.mpr ⟨rfl, hpopped⟩, hrest⟩
  | @group stack frames offset commas below ih =>
    exact ⟨[], _, rfl, List.forall_mem_nil _,
      Or.inr ⟨offset, stack, ⟨false, commas⟩, frames, rfl, rfl, fun hcall => absurd hcall Bool.false_ne_true⟩⟩
  | @call stack frames offset name place commas below ih =>
    exact ⟨[], _, rfl, List.forall_mem_nil _,
      Or.inr ⟨offset, _, ⟨true, commas⟩, frames, rfl, rfl, fun _ => ⟨name, place, stack, rfl⟩⟩⟩

end

/-- The last token is the name of a function. -/
def NamesFunction (tables : Tables) (tokens : List Token) : Prop :=
  ∃ before token, tokens = before ++ [token] ∧ token.kind = .identifier ∧ (tables.function? token.text).isSome

theorem namesFunction_append (tables : Tables) (before : List Token) (token : Token) :
    NamesFunction tables (before ++ [token]) ↔ token.kind = .identifier ∧ (tables.function? token.text).isSome := by
  constructor
  · rintro ⟨before', token', htokens, hname⟩
    obtain ⟨-, hlast⟩ := List.append_inj' htokens rfl
    cases hlast
    exact hname
  · exact fun hname => ⟨before, token, rfl, hname⟩

theorem Turn.afterFunction_iff {tables : Tables} {state next : State} {token : Token}
    (h : Turn tables state token next) :
    next.afterFunction = true ↔ token.kind = .identifier ∧ (tables.function? token.text).isSome := by
  cases h with
  | function offset hrule => simp [hrule]
  | constant offset hrule hvalue => simp [hrule]
  | number | openParen | closeGroup | closeCall | comma | operator => simp

theorem afterFunction_of_run {tables : Tables} {tokens : List Token} {state : State}
    (h : run tables {} tokens = .ok state) : state.afterFunction = true ↔ NamesFunction tables tokens := by
  rcases List.eq_nil_or_concat tokens with rfl | ⟨before, token, rfl⟩
  · cases h
    simp [NamesFunction]
  · rw [List.concat_eq_append] at h ⊢
    unfold run at h
    rw [List.foldlM_append] at h
    obtain ⟨last, -, h⟩ := bind_eq_ok h
    obtain ⟨next, hstep, h⟩ := bind_eq_ok h
    cases h
    rw [namesFunction_append, (turn_of_step hstep).afterFunction_iff]

/-- Why a token is refused: a fault of parsing, a text that is no number, or an operator that is not listed. -/
inductive Refused (tables : Tables) (token : Token) : Failure → Prop
  | fault (fault : Fault) (hstage : fault.stage = .parse) : Refused tables token (.fault fault)
  | number (hkind : token.kind = .number) (hvalue : Decimal.readFloat? token.text = none) :
    Refused tables token (.unreadableNumber token.text)
  | operator (symbol : String) (hkind : token.kind = .operator)
    (hsymbol : symbol = token.text ∨ token.text = "-" ∧ symbol = Operator.negSymbol)
    (hrule : tables.operator? symbol = none) : Refused tables token (.unlistedOperator symbol)

section

variable {tables : Tables} {token : Token} {failure : Failure} {output : List Postfix} {stack : List Entry}
  {frames : List Frame} {state : State}

theorem refused_of_identifier (h : identifier tables state token = .error failure) : Refused tables token failure := by
  rw [identifier] at h
  split at h
  · contradiction
  · split at h
    · contradiction
    · cases h
      exact .fault _ rfl

/-- A closing parenthesis finds its frame and, behind a call, the name; only the parenthesis itself may be missing. -/
theorem refused_of_closeParen (hmatched : Matched state.stack state.frames)
    (h : closeParen state token = .error failure) : Refused tables token failure := by
  obtain ⟨written, rest, hunwind, hrest, hop⟩ := unwind_of_matched hmatched state.output
  simp only [closeParen, hunwind, ok_bind] at h
  generalize state.frames = frames at h hrest
  cases hrest with
  | empty =>
    cases h
    exact .fault _ rfl
  | operator rule offset below => exact absurd rfl (hop rule offset _)
  | group offset commas below => contradiction
  | call offset name place commas below => contradiction

theorem refused_of_comma (hmatched : Matched state.stack state.frames)
    (h : comma state token = .error failure) : Refused tables token failure := by
  obtain ⟨written, rest, hunwind, hrest, hop⟩ := unwind_of_matched hmatched state.output
  simp only [comma, hunwind, ok_bind] at h
  generalize state.frames = frames at h hrest
  cases hrest with
  | empty =>
    cases h
    exact .fault _ rfl
  | operator rule offset below => exact absurd rfl (hop rule offset _)
  | group offset commas below =>
    cases h
    exact .fault _ rfl
  | call offset name place commas below => contradiction

theorem refused_of_operator (hkind : token.kind = .operator) (h : operator tables state token = .error failure) :
    Refused tables token failure := by
  simp only [operator] at h
  split at h
  · rename_i hrule
    cases h
    refine .operator _ hkind ?_ hrule
    split
    · rename_i hsign
      exact Or.inr ⟨of_decide_eq_true (Bool.and_eq_true_iff.mp hsign).1, rfl⟩
    · exact Or.inl rfl
  · split at h
    · cases h
      exact .fault _ rfl
    · contradiction

theorem refused_of_number (hkind : token.kind = .number) (h : number state token = .error failure) :
    Refused tables token failure := by
  rw [number] at h
  split at h
  · contradiction
  · rename_i hvalue
    cases h
    exact .number hkind hvalue

/-- What a step refuses it refuses for the token; the stacks are never at fault. -/
theorem refused_of_step (hmatched : state.IsMatched) (h : step tables state token = .error failure) :
    Refused tables token failure := by
  obtain ⟨output, stack, frames, expect, previous, call⟩ := state
  obtain ⟨kind, text, offset⟩ := token
  cases call with
  | true =>
    match stack, hmatched with
    | .function name place :: below, hmatched =>
      cases kind with
      | leftParen => contradiction
      | _ =>
        cases h
        exact .fault _ rfl
  | false =>
    have hwork {work : Except Failure State} (hstep : (work >>= fun next => .ok { next with previous := some kind }) =
        .error failure) : work = .error failure := by
      rcases bind_eq_error hstep with hfail | ⟨next, -, hnext⟩
      · exact hfail
      · contradiction
    cases kind with
    | number => exact refused_of_number rfl (hwork h)
    | identifier => exact refused_of_identifier (hwork h)
    | operator => exact refused_of_operator rfl (hwork h)
    | leftParen => contradiction
    | rightParen => exact refused_of_closeParen hmatched (hwork h)
    | comma => exact refused_of_comma hmatched (hwork h)

theorem fault_of_flush (h : Matched stack frames) (hflush : flush output stack = .error failure) :
    ∃ fault, failure = .fault fault ∧ fault.stage = .parse := by
  induction h generalizing output with
  | empty => contradiction
  | operator rule offset below ih => exact ih hflush
  | group offset commas below ih =>
    cases hflush
    exact ⟨_, rfl, rfl⟩
  | call offset name place commas below ih =>
    cases hflush
    exact ⟨_, rfl, rfl⟩

/-- At the end only a parenthesis or a name may be left over. -/
theorem fault_of_finish (hmatched : state.IsMatched) (h : finish state = .error failure) :
    ∃ fault, failure = .fault fault ∧ fault.stage = .parse := by
  obtain ⟨output, stack, frames, expect, previous, call⟩ := state
  cases call with
  | true =>
    match stack, hmatched with
    | .function name place :: below, hmatched =>
      cases h
      exact ⟨_, rfl, rfl⟩
  | false =>
    rcases bind_eq_error h with hflush | ⟨written, -, hwritten⟩
    · exact fault_of_flush hmatched hflush
    · contradiction

end

/-- Whatever the tables are and whatever tokens have been read, stack and frames are in step, also while operators are
taken from the stack, and the parenthesis that the next token may look for lies under nothing but operators. So a list
of tokens is refused for a fault, a text that is no number or an operator that is not listed, and for nothing else. -/
theorem stacks_stay_in_step (tables : Tables) (tokens : List Token) :
    (∀ read unread state, tokens = read ++ unread → run tables {} read = .ok state →
      (∀ popped rest, state.stack = popped ++ rest → (∀ entry ∈ popped, entry.isOperator = true) →
        InStep rest state.frames (NamesFunction tables read)) ∧
      (¬NamesFunction tables read → OnlyOperatorsAbove state.stack state.frames)) ∧
    ∀ failure, ofTokens tables tokens = .error failure →
      (∃ fault, failure = .fault fault ∧ fault.stage = .parse) ∨ ∃ token ∈ tokens, Refused tables token failure := by
  constructor
  · intro read unread state _ hrun
    have hmatched := isMatched_of_run hrun .empty
    have hnamed := afterFunction_of_run hrun
    constructor
    · intro popped rest hstack hpopped
      have hstep := hmatched.inStep hnamed
      rw [hstack] at hstep
      exact hstep.popAll hpopped
    · intro hname
      obtain ⟨output, stack, frames, expect, previous, call⟩ := state
      cases call with
      | false => exact Matched.onlyOperatorsAbove hmatched
      | true => exact absurd (hnamed.mp rfl) hname
  · intro failure hfailure
    rcases bind_eq_error hfailure with hrun | ⟨state, hrun, hfinish⟩
    · obtain ⟨before, token, after, state, rfl, hbefore, hstep⟩ := foldlM_eq_error hrun
      exact Or.inr ⟨token, by simp, refused_of_step (isMatched_of_run hbefore .empty) hstep⟩
    · exact Or.inl (fault_of_finish (isMatched_of_run hrun .empty) hfinish)

/-- In `sin(-))` the minus is taken from the stack before the call is closed; the second closing parenthesis finds
nothing. -/
theorem stacks_stay_in_step_of_call :
    run .standard {} [⟨.identifier, "sin", 0⟩, ⟨.leftParen, "(", 3⟩, ⟨.operator, "-", 4⟩] =
      .ok ⟨[], [.operator (Operator.unary .neg).rule 4, .paren 3, .function "sin" 0], [⟨true, 0⟩], true, some .operator,
        false⟩ ∧
    InStep [.paren 3, .function "sin" 0] [⟨true, 0⟩]
      (NamesFunction .standard [⟨.identifier, "sin", 0⟩, ⟨.leftParen, "(", 3⟩, ⟨.operator, "-", 4⟩]) ∧
    OnlyOperatorsAbove [.operator (Operator.unary .neg).rule 4, .paren 3, .function "sin" 0] [⟨true, 0⟩] ∧
    ofTokens .standard [⟨.identifier, "sin", 0⟩, ⟨.leftParen, "(", 3⟩, ⟨.operator, "-", 4⟩, ⟨.rightParen, ")", 5⟩,
      ⟨.rightParen, ")", 6⟩] = .error (.fault (.mismatchedParenthesis 6)) ∧
    ((∃ fault, Failure.fault (.mismatchedParenthesis 6) = .fault fault ∧ fault.stage = .parse) ∨
      ∃ token ∈ [⟨.identifier, "sin", 0⟩, ⟨.leftParen, "(", 3⟩, ⟨.operator, "-", 4⟩, ⟨.rightParen, ")", 5⟩,
        ⟨.rightParen, ")", 6⟩], Refused .standard token (.fault (.mismatchedParenthesis 6))) := by
  have hrun : run .standard {} [⟨.identifier, "sin", 0⟩, ⟨.leftParen, "(", 3⟩, ⟨.operator, "-", 4⟩] =
      .ok ⟨[], [.operator (Operator.unary .neg).rule 4, .paren 3, .function "sin" 0], [⟨true, 0⟩], true,
        some .operator, false⟩ := rfl
  have hfails : ofTokens .standard [⟨.identifier, "sin", 0⟩, ⟨.leftParen, "(", 3⟩, ⟨.operator, "-", 4⟩,
      ⟨.rightParen, ")", 5⟩, ⟨.rightParen, ")", 6⟩] = .error (.fault (.mismatchedParenthesis 6)) := rfl
  have hname : ¬NamesFunction .standard
      [⟨.identifier, "sin", 0⟩, ⟨.leftParen, "(", 3⟩, ⟨.operator, "-", 4⟩] := by
    rw [← afterFunction_of_run hrun]
    exact Bool.false_ne_true
  obtain ⟨hstate, hrefused⟩ := stacks_stay_in_step .standard [⟨.identifier, "sin", 0⟩, ⟨.leftParen, "(", 3⟩,
    ⟨.operator, "-", 4⟩, ⟨.rightParen, ")", 5⟩, ⟨.rightParen, ")", 6⟩]
  obtain ⟨hstep, habove⟩ := hstate [⟨.identifier, "sin", 0⟩, ⟨.leftParen, "(", 3⟩, ⟨.operator, "-", 4⟩] _ _ rfl hrun
  exact ⟨hrun, hstep [.operator (Operator.unary .neg).rule 4] _ rfl (List.forall_mem_singleton.mpr rfl), habove hname,
    hfails, hrefused _ hfails⟩

end SciCalc.Postfix.Parser
