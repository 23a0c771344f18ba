import SciCalc.Proofs.ParserSteps

/-!
# Reading derivations

The parser reads what a derivation spells and writes the post-order of the derivation. While it reads a
phrase of some level, the operators that wait above the stack it found are of that level; the stack below is
left alone, because none of its operators precedes one of that level.
-/

namespace SciCalc

namespace Postfix.Parser

open Infix (Level)

/-- The parser reads the tokens as a phrase of the level: it writes the post-order, but for operators of the
level that still wait above the stack it found. -/
def ReadsPhrase (level : Level) (tokens : List Token) (postorder : List Postfix) : Prop :=
  ∀ output stack frames previous, Free level stack → ∃ pending written kind,
    (∀ entry ∈ pending, entry.1 ∈ level.operators) ∧ kind ≠ Token.Kind.leftParen ∧
    run .standard ⟨output, stack, frames, true, previous, false⟩ tokens =
      .ok ⟨written, waiting pending ++ stack, frames, false, some kind, false⟩ ∧
    emit pending written = postorder.reverse ++ output

/-- The parser reads the tokens as so many arguments of the call whose parenthesis is open. -/
def ReadsArguments (count : Nat) (tokens : List Token) (postorder : List Postfix) : Prop :=
  ∀ output first stack commas frames previous, ∃ pending written kind total,
    kind ≠ Token.Kind.leftParen ∧ total + 1 = commas + count ∧
    run .standard ⟨output, .paren first :: stack, ⟨true, commas⟩ :: frames, true, previous, false⟩ tokens =
      .ok ⟨written, waiting pending ++ .paren first :: stack, ⟨true, total⟩ :: frames, false, some kind,
        false⟩ ∧
    emit pending written = postorder.reverse ++ output

theorem ReadsPhrase.mono {inner outer : Level} {tokens : List Token} {postorder : List Postfix}
    (hsub : inner.operators ⊆ outer.operators) (h : ReadsPhrase inner tokens postorder) :
    ReadsPhrase outer tokens postorder := by
  intro output stack frames previous hfree
  obtain ⟨pending, written, kind, hpending, hrest⟩ := h output stack frames previous (hfree.mono hsub)
  exact ⟨pending, written, kind, fun entry he => hsub (hpending entry he), hrest⟩

/-- Two phrases with a binary operator between them. The operators of the left phrase precede the operator, and it
precedes none of the right phrase. -/
theorem ReadsPhrase.binary {outer left right : Level} {op : BinaryOperator} {tokens tokens' : List Token}
    {postorder postorder' : List Postfix} (hleft : left.operators ⊆ outer.operators)
    (hright : right.operators ⊆ outer.operators) (hop : Operator.binary op ∈ outer.operators)
    (hbefore : ∀ top ∈ left.operators, top.rule.precedes (Operator.binary op).rule = true)
    (hbehind : ∀ incoming ∈ right.operators, (Operator.binary op).rule.precedes incoming.rule = false)
    (h : ReadsPhrase left tokens postorder) (h' : ReadsPhrase right tokens' postorder') (offset : Int) :
    ReadsPhrase outer (tokens ++ ⟨.operator, (Operator.binary op).symbol, offset⟩ :: tokens')
      (postorder ++ postorder' ++ [.operator (Operator.binary op).symbol]) := by
  intro output stack frames previous hfree
  obtain ⟨pending, written, kind, hpending, -, hrun, hemit⟩ :=
    h output stack frames previous (hfree.mono hleft)
  obtain ⟨pending', written', kind', hpending', hkind', hrun', hemit'⟩ :=
    h' (emit pending written) (.operator (Operator.binary op).rule offset :: stack) frames (some .operator)
      hbehind
  refine ⟨pending' ++ [(.binary op, offset)], written', kind', ?_, hkind', ?_, ?_⟩
  · intro entry he
    rcases List.mem_append.mp he with he | he
    · exact hright (hpending' entry he)
    · rw [List.mem_singleton.mp he]
      exact hop
  · have hstep := step_binary written frames (some kind)
      (fun entry he => hbefore _ (hpending entry he)) hop hfree offset
    unfold run at hrun hrun' ⊢
    rw [foldlM_append_ok hrun, List.foldlM_cons, hstep, ok_bind, hrun']
    simp
  · rw [emit_append, hemit', hemit]
    simp [emit]

theorem ReadsPhrase.minus {tokens : List Token} {postorder : List Postfix}
    (h : ReadsPhrase .signed tokens postorder) (offset : Int) :
    ReadsPhrase .signed (⟨.operator, "-", offset⟩ :: tokens)
      (postorder ++ [.operator Operator.negSymbol]) := by
  intro output stack frames previous _
  have hfree : Free .signed (.operator (Operator.unary .neg).rule offset :: stack) := by
    show ∀ op ∈ Level.signed.operators, (Operator.unary .neg).rule.precedes op.rule = false
    decide
  obtain ⟨pending, written, kind, hpending, hkind, hrun, hemit⟩ :=
    h output (.operator (Operator.unary .neg).rule offset :: stack) frames (some .operator) hfree
  refine ⟨pending ++ [(.unary .neg, offset)], written, kind, ?_, hkind, ?_, ?_⟩
  · intro entry he
    rcases List.mem_append.mp he with he | he
    · exact hpending entry he
    · rw [List.mem_singleton.mp he]
      exact (by decide : Operator.unary .neg ∈ Level.signed.operators)
  · unfold run at hrun ⊢
    rw [List.foldlM_cons, step_minus, ok_bind, hrun]
    simp
  · rw [emit_append, hemit]
    simp [emit, Operator.symbol]

theorem ReadsPhrase.percent {tokens : List Token} {postorder : List Postfix}
    (h : ReadsPhrase .percent tokens postorder) (offset : Int) :
    ReadsPhrase .percent (tokens ++ [⟨.operator, "%", offset⟩]) (postorder ++ [.operator "%"]) := by
  intro output stack frames previous hfree
  obtain ⟨pending, written, kind, hpending, -, hrun, hemit⟩ := h output stack frames previous hfree
  have hprecede : ∀ top ∈ Level.percent.operators, top.rule.precedes (Operator.unary .percent).rule = true := by
    decide
  have hpercent : Operator.unary .percent ∈ Level.percent.operators := by decide
  have hstep := step_percent written frames (some kind)
    (fun entry he => hprecede _ (hpending entry he)) hpercent hfree offset
  refine ⟨[(.unary .percent, offset)], emit pending written, .operator, ?_, by decide, ?_, ?_⟩
  · intro entry he
    rw [List.mem_singleton.mp he]
    exact hpercent
  · unfold run at hrun ⊢
    rw [foldlM_append_ok hrun, List.foldlM_cons, hstep]
    rfl
  · rw [hemit]
    simp [emit, Operator.symbol]

theorem readsPhrase_number {text : String} (htext : Token.IsNumeral text.toList) (offset : Int) :
    ReadsPhrase .operand [⟨.number, text, offset⟩]
      [.literal (Decimal.Digits.toFloat false (.ofNumeral text.toList))] := by
  intro output stack frames previous _
  refine ⟨[], _, .number, by simp, by decide, ?_, rfl⟩
  unfold run
  rw [List.foldlM_cons, step_number htext]
  rfl

theorem readsPhrase_constant {text : String} {value : Float}
    (hvalue : Tables.standard.constant? text = some value) (offset : Int) :
    ReadsPhrase .operand [⟨.identifier, text, offset⟩] [.literal value] := by
  intro output stack frames previous _
  refine ⟨[], _, .identifier, by simp, by decide, ?_, rfl⟩
  unfold run
  rw [List.foldlM_cons, step_constant hvalue]
  rfl

theorem ReadsPhrase.group {tokens : List Token} {postorder : List Postfix}
    (h : ReadsPhrase .sum tokens postorder) (first last : Int) :
    ReadsPhrase .operand (⟨.leftParen, "(", first⟩ :: tokens ++ [⟨.rightParen, ")", last⟩]) postorder := by
  intro output stack frames previous _
  -- a parenthesis resists every operator, so the sum in it is read above it
  obtain ⟨pending, written, kind, -, -, hrun, hemit⟩ :=
    h output (.paren first :: stack) (⟨false, 0⟩ :: frames) (some .leftParen) trivial
  refine ⟨[], emit pending written, .rightParen, by simp, by decide, ?_, hemit⟩
  unfold run at hrun ⊢
  rw [List.cons_append, List.foldlM_cons, step_open, ok_bind, foldlM_append_ok hrun, List.foldlM_cons,
    step_close_group]
  rfl

theorem readsPhrase_callNone {text : String} {rule : FunctionRule}
    (hrule : Tables.standard.function? text = some rule) (offset first last : Int) :
    ReadsPhrase .operand [⟨.identifier, text, offset⟩, ⟨.leftParen, "(", first⟩, ⟨.rightParen, ")", last⟩]
      [.call rule.name (some 0)] := by
  intro output stack frames previous _
  refine ⟨[], _, .rightParen, by simp, by decide, ?_, rfl⟩
  have hclose := step_close_call output stack frames true (some .leftParen) [] first 0 rule.name ")"
    offset last
  unfold run
  rw [List.foldlM_cons, step_function hrule, ok_bind, List.foldlM_cons, step_open, ok_bind,
    List.foldlM_cons]
  exact congrArg (· >>= _) hclose

theorem ReadsArguments.call {text : String} {rule : FunctionRule} {count : Nat} {tokens : List Token}
    {postorder : List Postfix} (hrule : Tables.standard.function? text = some rule)
    (h : ReadsArguments count tokens postorder) (offset first last : Int) :
    ReadsPhrase .operand
      (⟨.identifier, text, offset⟩ :: ⟨.leftParen, "(", first⟩ :: tokens ++ [⟨.rightParen, ")", last⟩])
      (postorder ++ [.call rule.name (some count)]) := by
  intro output stack frames previous _
  obtain ⟨pending, written, kind, total, hkind, htotal, hrun, hemit⟩ :=
    h output first (.function rule.name offset :: stack) 0 frames (some .leftParen)
  refine ⟨[], .call rule.name (some count) :: emit pending written, .rightParen, by simp, by decide, ?_, ?_⟩
  · have hclose := step_close_call written stack frames false (some kind) pending first total rule.name ")"
      offset last
    have hargc : ((total : Int) + 1) = count := by omega
    rw [if_neg (fun e => hkind (Option.some.inj e)), hargc] at hclose
    unfold run at hrun ⊢
    rw [List.cons_append, List.cons_append, List.foldlM_cons, step_function hrule, ok_bind,
      List.foldlM_cons, step_open, ok_bind, foldlM_append_ok hrun, List.foldlM_cons]
    exact congrArg (· >>= _) hclose
  · rw [emit_nil, hemit]
    simp

theorem ReadsPhrase.argument {tokens : List Token} {postorder : List Postfix}
    (h : ReadsPhrase .sum tokens postorder) : ReadsArguments 1 tokens postorder := by
  intro output first stack commas frames previous
  obtain ⟨pending, written, kind, -, hkind, hrun, hemit⟩ :=
    h output (.paren first :: stack) (⟨true, commas⟩ :: frames) previous trivial
  exact ⟨pending, written, kind, commas, hkind, rfl, hrun, hemit⟩

theorem ReadsArguments.comma {count : Nat} {tokens tokens' : List Token} {postorder postorder' : List Postfix}
    (h : ReadsArguments count tokens postorder) (h' : ReadsPhrase .sum tokens' postorder') (offset : Int) :
    ReadsArguments (count + 1) (tokens ++ ⟨.comma, ",", offset⟩ :: tokens') (postorder ++ postorder') := by
  intro output first stack commas frames previous
  obtain ⟨pending, written, kind, total, -, htotal, hrun, hemit⟩ :=
    h output first stack commas frames previous
  obtain ⟨pending', written', kind', -, hkind', hrun', hemit'⟩ :=
    h' (emit pending written) (.paren first :: stack) (⟨true, total + 1⟩ :: frames) (some .comma) trivial
  refine ⟨pending', written', kind', total + 1, hkind', by omega, ?_, ?_⟩
  · unfold run at hrun hrun' ⊢
    rw [foldlM_append_ok hrun, List.foldlM_cons, step_comma, ok_bind, hrun']
  · rw [hemit', hemit]
    simp

end Postfix.Parser

namespace Infix

open Postfix.Parser

/-- What the parser makes of a derivation of each level. -/
def IsRead : {level : Level} → Infix level → Prop
  | .arguments, arguments => ReadsArguments arguments.count arguments.tokens arguments.postorder
  | level, phrase => ReadsPhrase level phrase.tokens phrase.postorder

/-- Each rule of the grammar keeps that its phrases are read. -/
theorem isRead {level : Level} (phrase : Infix level) : phrase.IsRead := by
  induction phrase with
  | product only ih => exact ReadsPhrase.mono (by decide) ih
  | sum left op hop offset right ihl ihr =>
    rcases hop with rfl | rfl <;>
      exact ReadsPhrase.binary (by decide) (by decide) (by decide) (by decide) (by decide) ihl ihr offset
  | signed only ih => exact ReadsPhrase.mono (by decide) ih
  | times left op hop offset right ihl ihr =>
    rcases hop with rfl | rfl <;>
      exact ReadsPhrase.binary (by decide) (by decide) (by decide) (by decide) (by decide) ihl ihr offset
  | minus offset inner ih => exact ReadsPhrase.minus ih offset
  | unsigned only ih => exact ReadsPhrase.mono (by decide) ih
  | base only ih => exact ReadsPhrase.mono (by decide) ih
  | raised lower offset exponent ihl ihe =>
    have hpow : Operator.binary .pow ∈ Level.power.operators := by decide
    exact ReadsPhrase.binary (by decide) (by decide) hpow (by decide) (by decide) ihl ihe offset
  | operand only ih => exact ReadsPhrase.mono (by decide) ih
  | percent inner offset ih => exact ReadsPhrase.percent ih offset
  | number text htext offset => exact readsPhrase_number htext offset
  | constant text value hvalue offset => exact readsPhrase_constant hvalue offset
  | group first inner last ih => exact ReadsPhrase.group ih first last
  | callNone text rule hrule offset first last => exact readsPhrase_callNone hrule offset first last
  | call text rule hrule offset first arguments last ih =>
    exact ReadsArguments.call hrule ih offset first last
  | argument only ih =>
    simp only [IsRead, count]
    exact ReadsPhrase.argument ih
  | comma before offset last ihb ihl =>
    simp only [IsRead, count]
    exact ReadsArguments.comma ihb ihl offset

end Infix

namespace Postfix

open SciCalc.Postfix.Parser

theorem ofTokens_of_readsPhrase {tokens : List Token} {postorder : List Postfix}
    (h : ReadsPhrase .sum tokens postorder) : ofTokens .standard tokens = .ok postorder := by
  obtain ⟨pending, written, kind, -, -, hrun, hemit⟩ := h [] [] [] none trivial
  rw [List.append_nil] at hemit
  have hflush : flush written (waiting pending ++ []) = .ok postorder.reverse := by
    rw [flush_waiting, hemit]
    rfl
  simp only [ofTokens, hrun, ok_bind, finish, hflush, Bool.false_eq_true, if_false, List.reverse_reverse]
  rfl

/-- What a derivation spells is read as the post-order of the derivation. So a prefix minus waits for a power
of its operand, also in an exponent, powers group to the right, and a percent sign comes before all else. -/
theorem ofTokens_tokens :
    (∀ phrase : Infix .sum, ofTokens .standard phrase.tokens = .ok phrase.postorder) ∧
    ∀ (a b c : Infix .operand) (i j k : Int),
      ofTokens .standard (⟨.operator, "-", i⟩ :: (a.tokens ++ ⟨.operator, "^", j⟩ :: b.tokens)) =
        .ok (a.postorder ++ b.postorder ++ [.operator "^"] ++ [.operator "u-"]) ∧
      ofTokens .standard (a.tokens ++ ⟨.operator, "^", i⟩ :: ⟨.operator, "-", j⟩ ::
          (b.tokens ++ ⟨.operator, "^", k⟩ :: c.tokens)) =
        .ok (a.postorder ++ (b.postorder ++ c.postorder ++ [.operator "^"] ++ [.operator "u-"]) ++
          [.operator "^"]) ∧
      ofTokens .standard (a.tokens ++ ⟨.operator, "^", i⟩ :: (b.tokens ++ ⟨.operator, "^", j⟩ :: c.tokens)) =
        .ok (a.postorder ++ (b.postorder ++ c.postorder ++ [.operator "^"]) ++ [.operator "^"]) ∧
      ofTokens .standard (⟨.operator, "-", i⟩ ::
          (a.tokens ++ ⟨.operator, "^", j⟩ :: (b.tokens ++ [⟨.operator, "%", k⟩]))) =
        .ok (a.postorder ++ (b.postorder ++ [.operator "%"]) ++ [.operator "^"] ++ [.operator "u-"]) := by
  have hread (phrase : Infix .sum) : ofTokens .standard phrase.tokens = .ok phrase.postorder :=
    ofTokens_of_readsPhrase phrase.isRead
  refine ⟨hread, fun a b c i j k => ⟨?_, ?_, ?_, ?_⟩⟩
  · exact hread (.product (.signed (.minus i (.unsigned
      (.raised (.operand a) j (.unsigned (.base (.operand b))))))))
  · exact hread (.product (.signed (.unsigned (.raised (.operand a) i (.minus j (.unsigned
      (.raised (.operand b) k (.unsigned (.base (.operand c))))))))))
  · exact hread (.product (.signed (.unsigned (.raised (.operand a) i (.unsigned
      (.raised (.operand b) j (.unsigned (.base (.operand c)))))))))
  · exact hread (.product (.signed (.minus i (.unsigned
      (.raised (.operand a) j (.unsigned (.base (.percent (.operand b) k))))))))

end Postfix

end SciCalc
