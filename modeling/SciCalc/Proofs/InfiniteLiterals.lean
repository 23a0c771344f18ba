import SciCalc.Proofs.GreatNumbers
import SciCalc.Proofs.Recompiling
import SciCalc.Proofs.WrittenLiterals

/-!
# Infinite literals

The infix text of an expression is read back as the expression, unless one of its numbers was read as infinity. The
name of infinity is split off the text like any other name, but it stands for nothing.
-/

namespace SciCalc

namespace Postfix.Parser

/-- Wherever an operand may begin, the parser reads the tokens up to the name of infinity, which it does not know. -/
def StopsAtInfinity (tokens : List Token) : Prop :=
  ∀ output stack frames previous, ∃ place,
    run .standard ⟨output, stack, frames, true, previous, false⟩ tokens =
      .error (.fault (.unknownIdentifier "inf" place))

theorem stopsAtInfinity_name (offset : Int) : StopsAtInfinity [⟨.identifier, "inf", offset⟩] := by
  intro output stack frames previous
  have hfunction : Tables.standard.function? "inf" = none := rfl
  have hconstant : Tables.standard.constant? "inf" = none := rfl
  refine ⟨offset, ?_⟩
  simp only [run, List.foldlM_cons, step, identifier, hfunction, hconstant]
  rfl

variable {lead tokens : List Token}

theorem StopsAtInfinity.append (h : StopsAtInfinity tokens) (rest : List Token) :
    StopsAtInfinity (tokens ++ rest) := by
  intro output stack frames previous
  obtain ⟨place, hrun⟩ := h output stack frames previous
  unfold run at hrun ⊢
  exact ⟨place, by rw [List.foldlM_append, hrun, error_bind]⟩

/-- Tokens behind which an operand may begin, if one may before them. -/
def AskOperand (lead : List Token) : Prop :=
  ∀ output stack frames previous, ∃ output' stack' frames' previous',
    run .standard ⟨output, stack, frames, true, previous, false⟩ lead =
      .ok ⟨output', stack', frames', true, previous', false⟩

theorem StopsAtInfinity.behind (h : StopsAtInfinity tokens) (hlead : AskOperand lead) :
    StopsAtInfinity (lead ++ tokens) := by
  intro output stack frames previous
  obtain ⟨output', stack', frames', previous', hrun⟩ := hlead output stack frames previous
  obtain ⟨place, hstop⟩ := h output' stack' frames' previous'
  unfold run at hrun hstop ⊢
  exact ⟨place, by rw [foldlM_append_ok hrun, hstop]⟩

theorem askOperand_minus (offset : Int) : AskOperand [⟨.operator, "-", offset⟩] := by
  intro output stack frames previous
  refine ⟨output, .operator (Operator.unary .neg).rule offset :: stack, frames, some .operator, ?_⟩
  unfold run
  rw [List.foldlM_cons, step_minus]
  rfl

theorem askOperand_open (offset : Int) : AskOperand [⟨.leftParen, "(", offset⟩] := by
  intro output stack frames previous
  refine ⟨output, .paren offset :: stack, ⟨false, 0⟩ :: frames, some .leftParen, ?_⟩
  unfold run
  rw [List.foldlM_cons, step_open]
  rfl

theorem askOperand_call (f : Function) (offset first : Int) :
    AskOperand [⟨.identifier, f.name, offset⟩, ⟨.leftParen, "(", first⟩] := by
  intro output stack frames previous
  refine ⟨output, .paren first :: .function f.rule.name offset :: stack, ⟨true, 0⟩ :: frames, some .leftParen, ?_⟩
  unfold run
  rw [List.foldlM_cons, step_function (Tables.function?_name f), ok_bind, List.foldlM_cons, step_open]
  rfl

/-- Between parentheses, behind an operand and a binary operator. -/
theorem askOperand_behind (left : Infix .operand) (op : BinaryOperator) (first offset : Int) :
    AskOperand (⟨.leftParen, "(", first⟩ :: left.tokens ++ [⟨.operator, (Operator.binary op).symbol, offset⟩]) := by
  intro output stack frames previous
  obtain ⟨pending, written, kind, hpending, -, hrun, -⟩ :=
    left.isRead output (.paren first :: stack) (⟨false, 0⟩ :: frames) (some .leftParen) trivial
  have hbefore : ∀ entry ∈ pending, entry.1.rule.precedes (Operator.binary op).rule = true :=
    fun entry hentry => absurd (hpending entry hentry) List.not_mem_nil
  have hop : Operator.binary op ∈ Infix.Level.sum.operators := by
    cases op <;> decide
  have hfree : Free .sum (.paren first :: stack) := trivial
  have hstep := step_binary written (⟨false, 0⟩ :: frames) (some kind) hbefore hop hfree offset
  refine ⟨emit pending written, .operator (Operator.binary op).rule offset :: .paren first :: stack,
    ⟨false, 0⟩ :: frames, some .operator, ?_⟩
  unfold run at hrun ⊢
  rw [List.cons_append, List.foldlM_cons, step_open, ok_bind, foldlM_append_ok hrun, List.foldlM_cons, hstep]
  rfl

/-- In a call, behind its first argument. -/
theorem askOperand_second (left : Infix .operand) (f : Function) (offset first last : Int) :
    AskOperand (⟨.identifier, f.name, offset⟩ :: ⟨.leftParen, "(", first⟩ :: left.tokens ++ [⟨.comma, ",", last⟩]) := by
  intro output stack frames previous
  obtain ⟨pending, written, kind, -, -, hrun, -⟩ :=
    left.isRead output (.paren first :: .function f.rule.name offset :: stack) (⟨true, 0⟩ :: frames)
      (some .leftParen) trivial
  refine ⟨emit pending written, .paren first :: .function f.rule.name offset :: stack, ⟨true, 1⟩ :: frames,
    some .comma, ?_⟩
  unfold run at hrun ⊢
  rw [List.cons_append, List.cons_append, List.foldlM_cons, step_function (Tables.function?_name f), ok_bind,
    List.foldlM_cons, step_open, ok_bind, foldlM_append_ok hrun, List.foldlM_cons, step_comma]
  rfl

end Postfix.Parser

namespace Token

/-- Wherever the text stands it is split into tokens. -/
def IsSplit (text : List Char) : Prop := ∀ offset : Nat, ∃ tokens, Spells offset text tokens

variable {text rest : List Char}

theorem isSplit_close : IsSplit [')'] := fun offset => ⟨_, spells_rightParen offset⟩

theorem IsSplit.sign {c : Char} {kind : Kind} (h : IsSplit text) (hkind : signKind? c = some kind) :
    IsSplit (c :: text) := by
  intro offset
  obtain ⟨tokens, hspells⟩ := h (offset + 1)
  exact ⟨_, hspells.sign hkind rfl⟩

theorem IsSplit.append {c : Char} (h : IsSplit text) (hc : isWordChar c = false) (hrest : IsSplit (c :: rest)) :
    IsSplit (text ++ c :: rest) := by
  intro offset
  obtain ⟨tokens, hspells⟩ := h offset
  obtain ⟨tokens', hspells'⟩ := hrest (offset + text.length)
  exact ⟨_, hspells.append hc hspells'⟩

end Token

namespace Infix

open Token Postfix.Parser

/-- Wherever the text stands, the parser does not get through its tokens: infinity is named in it. -/
def NamesInfinity (text : List Char) : Prop :=
  ∀ offset : Nat, ∃ tokens, Spells offset text tokens ∧ StopsAtInfinity tokens

variable {text rest left : List Char} {postorder : List Postfix}

theorem IsOperandText.isSplit (h : IsOperandText text postorder) : IsSplit text := by
  intro offset
  obtain ⟨phrase, -, hspells⟩ := h offset
  exact ⟨phrase.tokens, hspells⟩

theorem NamesInfinity.isSplit (h : NamesInfinity text) : IsSplit text := by
  intro offset
  obtain ⟨tokens, hspells, -⟩ := h offset
  exact ⟨tokens, hspells⟩

theorem namesInfinity_name : NamesInfinity ['i', 'n', 'f'] := by
  intro offset
  have htail : ∀ c ∈ ['n', 'f'], isIdentifierPart c := List.all_eq_true.mp rfl
  exact ⟨[⟨.identifier, "inf", offset⟩], fun rest hrest => lexFrom_name rfl htail hrest offset,
    stopsAtInfinity_name offset⟩

/-- What is behind the name of infinity is split into tokens, but not parsed. -/
theorem NamesInfinity.append {c : Char} (h : NamesInfinity text) (hc : isWordChar c = false)
    (hrest : IsSplit (c :: rest)) : NamesInfinity (text ++ c :: rest) := by
  intro offset
  obtain ⟨tokens, hspells, hstops⟩ := h offset
  obtain ⟨tokens', hspells'⟩ := hrest (offset + text.length)
  exact ⟨tokens ++ tokens', hspells.append hc hspells', hstops.append tokens'⟩

theorem NamesInfinity.minus (h : NamesInfinity text) : NamesInfinity ('-' :: text) := by
  intro offset
  obtain ⟨tokens, hspells, hstops⟩ := h (offset + 1)
  exact ⟨_, hspells.minus, hstops.behind (askOperand_minus offset)⟩

theorem NamesInfinity.leftParen (h : NamesInfinity text) : NamesInfinity ('(' :: text) := by
  intro offset
  obtain ⟨tokens, hspells, hstops⟩ := h (offset + 1)
  exact ⟨_, hspells.leftParen, hstops.behind (askOperand_open offset)⟩

theorem NamesInfinity.call (h : NamesInfinity text) (f : Function) : NamesInfinity (f.name.toList ++ '(' :: text) := by
  intro offset
  obtain ⟨tokens, hspells, hstops⟩ := h (offset + f.name.toList.length + 1)
  exact ⟨_, (spells_functionName f offset).append rfl hspells.leftParen, hstops.behind (askOperand_call f _ _)⟩

theorem NamesInfinity.behind_operand (h : NamesInfinity text) (hleft : IsOperandText left postorder)
    (op : BinaryOperator) : NamesInfinity ('(' :: (left ++ ((Operator.binary op).symbol.toList ++ text))) := by
  intro offset
  obtain ⟨c, hsymbol, hc, hkind, hc'⟩ := exists_sign_binary op
  obtain ⟨phrase, -, hspells⟩ := hleft (offset + 1)
  obtain ⟨tokens, hspells', hstops⟩ := h (offset + 1 + left.length + 1)
  refine ⟨_, ?_, hstops.behind (askOperand_behind phrase op offset (offset + 1 + left.length : Nat))⟩
  rw [hsymbol]
  simpa using (hspells.append hc (hspells'.sign hkind hc')).leftParen

theorem NamesInfinity.second_argument (h : NamesInfinity text) (hleft : IsOperandText left postorder)
    (f : Function) : NamesInfinity (f.name.toList ++ '(' :: (left ++ ',' :: text)) := by
  intro offset
  obtain ⟨phrase, -, hspells⟩ := hleft (offset + f.name.toList.length + 1)
  obtain ⟨tokens, hspells', hstops⟩ := h (offset + f.name.toList.length + 1 + left.length + 1)
  refine ⟨_, ?_, hstops.behind (askOperand_second phrase f offset (offset + f.name.toList.length : Nat)
    (offset + f.name.toList.length + 1 + left.length : Nat))⟩
  simpa using (spells_functionName f offset).append rfl (hspells.append rfl hspells'.comma).leftParen

end Infix

namespace Tree

open Infix Token

theorem isFinite_of_mem {tree : Tree} {x : Float} (h : tree.IsFinite) (hx : .literal x ∈ tree.toPostfix) :
    x.isFinite = true := by
  induction tree with
  | number y =>
    simp only [toPostfix, List.mem_singleton, Postfix.literal.injEq] at hx
    rwa [hx]
  | unary op operand ih => exact ih h (by simpa [toPostfix] using hx)
  | binary op left right ihl ihr =>
    have hsides : .literal x ∈ left.toPostfix ∨ .literal x ∈ right.toPostfix := by simpa [toPostfix] using hx
    exact hsides.elim (ihl h.1) (ihr h.2)
  | apply f argument ih => exact ih h (by simpa [toPostfix] using hx)
  | power base exponent ihb ihe =>
    have hsides : .literal x ∈ base.toPostfix ∨ .literal x ∈ exponent.toPostfix := by simpa [toPostfix] using hx
    exact hsides.elim (ihb h.1) (ihe h.2)

theorem print_infinity : (number Decimal.infinity).print.toList = ['i', 'n', 'f'] := rfl

/-- The text of a tree is split into tokens, whether all its numbers are finite or infinity is named in it. -/
theorem isSplit_print {tree : Tree} (h : ¬tree.IsFinite → NamesInfinity tree.print.toList) :
    IsSplit tree.print.toList := by
  by_cases hfinite : tree.IsFinite
  · exact (isOperandText_print hfinite).isSplit
  · exact (h hfinite).isSplit

/-- A tree with infinite numbers is printed with a name that the parser does not know. -/
theorem namesInfinity_print {tree : Tree}
    (hnumbers : ∀ x, .literal x ∈ tree.toPostfix → x.isFinite = true ∨ x = Decimal.infinity)
    (hinfinite : ¬tree.IsFinite) : NamesInfinity tree.print.toList := by
  induction tree with
  | number x =>
    rcases hnumbers x (List.mem_singleton_self _) with hfinite | rfl
    · exact absurd hfinite hinfinite
    · rw [print_infinity]
      exact namesInfinity_name
  | unary op operand ih =>
    have hoperand := ih (fun x hx => hnumbers x (List.mem_append_left _ hx)) hinfinite
    cases op with
    | neg =>
      rw [toList_print_neg]
      exact (hoperand.append rfl isSplit_close).minus.leftParen
    | percent =>
      rw [toList_print_percent]
      exact (hoperand.append rfl (isSplit_close.sign rfl)).leftParen
  | binary op left right ihl ihr =>
    have hleft := ihl fun x hx => hnumbers x (List.mem_append_left _ (List.mem_append_left _ hx))
    have hright := ihr fun x hx => hnumbers x (List.mem_append_left _ (List.mem_append_right _ hx))
    obtain ⟨c, hsymbol, hc, hkind, -⟩ := exists_sign_binary op
    have hclosed := (isSplit_print hright).append rfl isSplit_close
    rw [toList_print_binary]
    by_cases hfinite : left.IsFinite
    · have hlast : ¬right.IsFinite := fun h => hinfinite ⟨hfinite, h⟩
      exact ((hright hlast).append rfl isSplit_close).behind_operand (isOperandText_print hfinite) op
    · rw [hsymbol]
      exact ((hleft hfinite).append hc (hclosed.sign hkind)).leftParen
  | apply f argument ih =>
    have hargument := ih (fun x hx => hnumbers x (List.mem_append_left _ hx)) hinfinite
    rw [toList_print_apply]
    exact (hargument.append rfl isSplit_close).call (.unary f)
  | power base exponent ihb ihe =>
    have hbase := ihb fun x hx => hnumbers x (List.mem_append_left _ (List.mem_append_left _ hx))
    have hexponent := ihe fun x hx => hnumbers x (List.mem_append_left _ (List.mem_append_right _ hx))
    have hclosed := (isSplit_print hexponent).append rfl isSplit_close
    rw [toList_print_power]
    by_cases hfinite : base.IsFinite
    · have hlast : ¬exponent.IsFinite := fun h => hinfinite ⟨hfinite, h⟩
      exact ((hexponent hlast).append rfl isSplit_close).second_argument (isOperandText_print hfinite) .power
    · exact ((hbase hfinite).append rfl (hclosed.sign rfl)).call .power

end Tree

theorem Tables.mem_of_constant? {text : String} {x : Float} (h : standard.constant? text = some x) :
    x ∈ standardConstants.map Prod.snd := by
  have hmem : (Text.lower text, x) ∈ standardConstants := mem_of_lookup h
  exact List.mem_map_of_mem hmem

namespace Token

open Decimal

/-- The token is a number so great that it is read as infinity. -/
def IsGreat (token : Token) : Prop := token.kind = .number ∧ (Digits.ofNumeral token.text.toList).IsGreat

instance (token : Token) : Decidable token.IsGreat := inferInstanceAs (Decidable (_ ∧ _))

theorem value?_number {text : String} (h : IsNumeral text.toList) (offset : Int) :
    value? .standard ⟨.number, text, offset⟩ = some (Digits.toFloat false (.ofNumeral text.toList)) :=
  readFloat?_numeral h

theorem IsGreat.value? {token : Token} (h : token.IsGreat) (hspelled : token.IsSpelled) :
    token.value? .standard = some infinity := by
  obtain ⟨kind, text, offset⟩ := token
  obtain ⟨rfl, hgreat⟩ := h
  have hbits : (Digits.ofNumeral text.toList).nearestBits = Magnitude.infinityBits := by
    have hle := (Digits.ofNumeral text.toList).nearestBits_le_infinityBits
    have hge := mt (Digits.ofNumeral text.toList).nearestBits_lt_iff.mp (not_not_intro hgreat)
    exact Nat.le_antisymm hle (Nat.le_of_not_lt hge)
  rw [value?_number hspelled, Digits.toFloat, hbits]
  rfl

/-- Numbers and constants have finite values without a sign, but for numbers that are too great. -/
theorem finite_of_value? {token : Token} {x : Float} (hspelled : token.IsSpelled) (hgreat : ¬token.IsGreat)
    (h : token.value? .standard = some x) : x.isFinite = true ∧ isNegative x = false := by
  obtain ⟨kind, text, offset⟩ := token
  cases kind with
  | number =>
    rw [value?_number hspelled] at h
    cases h
    have hbits := (Digits.nearestBits_lt_iff _).mpr fun h => hgreat ⟨rfl, h⟩
    exact ⟨isFinite_signAndBits false hbits, isNegative_signAndBits false hbits⟩
  | identifier =>
    have hconstant : Tables.standard.constant? text = some x := by
      by_cases hname : (Tables.standard.function? text).isSome
      · rw [Token.value?, if_pos hname] at h
        contradiction
      · rwa [Token.value?, if_neg hname] at h
    have hall : ∀ x ∈ Tables.standardConstants.map Prod.snd, x.isFinite = true ∧ isNegative x = false := by
      decide +kernel
    exact hall x (Tables.mem_of_constant? hconstant)
  | operator => contradiction
  | leftParen => contradiction
  | rightParen => contradiction
  | comma => contradiction

end Token

namespace Expression

variable {text : String} {tokens : List Token} {elements : List Postfix} {tree : Tree}

theorem ofTokens_of_compile (hlex : Token.lex text = .ok tokens) (h : compile text = .ok elements) :
    Postfix.ofTokens .standard tokens = .ok elements := by
  by_cases hne : tokens = []
  · subst hne
    simp only [compile, hlex] at h
    contradiction
  · rwa [compile_of_lex hlex hne] at h

theorem compile_of_namesInfinity (h : Infix.NamesInfinity text.toList) :
    ∃ place, compile text = .error (.fault (.unknownIdentifier "inf" place)) := by
  obtain ⟨tokens, hspells, hstops⟩ := h 0
  obtain ⟨place, hrun⟩ := hstops [] [] [] none
  have hne : tokens ≠ [] := by
    rintro rfl
    contradiction
  refine ⟨place, ?_⟩
  rw [compile_of_lex (Token.lex_of_spells hspells) hne, Postfix.ofTokens, hrun, error_bind]

section

variable (hlex : Token.lex text = .ok tokens) (hcompile : compile text = .ok elements)
include hlex hcompile

theorem literal_mem_iff {x : Float} : .literal x ∈ elements ↔ ∃ token ∈ tokens, token.value? .standard = some x := by
  rw [← Postfix.mem_values, Postfix.values_of_ofTokens (ofTokens_of_compile hlex hcompile), List.mem_filterMap]

/-- Literals of a text are finite and without a sign, or they are infinite and there is a great number in it. -/
theorem literal_cases {x : Float} (hx : .literal x ∈ elements) :
    (x.isFinite = true ∧ Decimal.isNegative x = false) ∨
      ((∃ token ∈ tokens, token.IsGreat) ∧ x = Decimal.infinity) := by
  obtain ⟨token, hmem, hvalue⟩ := (literal_mem_iff hlex hcompile).mp hx
  have hspelled := Token.isSpelled_of_lex hlex token hmem
  by_cases hgreat : token.IsGreat
  · have hinfinity := hgreat.value? hspelled
    exact Or.inr ⟨⟨token, hmem, hgreat⟩, Option.some.inj (hvalue.symm.trans hinfinity)⟩
  · exact Or.inl (Token.finite_of_value? hspelled hgreat hvalue)

/-- An expression has an infix text exactly if there is room for the calls that write it. The text compiles to what the
expression compiles to exactly if no number in it is so great that it is read as infinity. For infinity is written with
a name, and it is a name that stands for nothing. -/
theorem compile_infixText_iff (stack : CallStack) (htree : Tree.ofPostfix elements = .ok tree) :
    (¬stack.HoldsText tree → infixText stack elements = .error .recursionTooDeep) ∧
    (stack.HoldsText tree → ∃ written, infixText stack elements = .ok written ∧
      (compile written = .ok elements ↔ ∀ token ∈ tokens, ¬token.IsGreat) ∧
      ((∃ token ∈ tokens, token.IsGreat) →
        ∃ place, compile written = .error (.fault (.unknownIdentifier "inf" place)))) := by
  rw [infixText_eq stack htree]
  refine ⟨fun hroom => if_neg hroom, fun hroom => ⟨tree.print, if_pos hroom, ?_⟩⟩
  obtain rfl := Tree.toPostfix_of_ofPostfix htree
  by_cases hgreat : ∃ token ∈ tokens, token.IsGreat
  · have hinfinite : ¬tree.IsFinite := by
      intro hfinite
      obtain ⟨token, hmem, htoken⟩ := hgreat
      have hvalue := htoken.value? (Token.isSpelled_of_lex hlex token hmem)
      have hinfinity := (literal_mem_iff hlex hcompile).mpr ⟨token, hmem, hvalue⟩
      exact absurd (Tree.isFinite_of_mem hfinite hinfinity) (by decide +kernel)
    have hnumbers : ∀ x, .literal x ∈ tree.toPostfix → x.isFinite = true ∨ x = Decimal.infinity :=
      fun x hx => (literal_cases hlex hcompile hx).imp And.left And.right
    obtain ⟨place, herror⟩ := compile_of_namesInfinity (Tree.namesInfinity_print hnumbers hinfinite)
    rw [herror]
    refine ⟨⟨fun h => ?_, fun hnone => ?_⟩, fun _ => ⟨place, rfl⟩⟩
    · contradiction
    · obtain ⟨token, hmem, htoken⟩ := hgreat
      exact absurd htoken (hnone token hmem)
  · have hfinite : ∀ x, .literal x ∈ tree.toPostfix → x.isFinite = true ∧ Decimal.isNegative x = false :=
      fun x hx => (literal_cases hlex hcompile hx).resolve_right fun h => hgreat h.1
    have hnumbers := Tree.isFinite_of_toPostfix fun x hx => (hfinite x hx).1
    have hback := compile_of_isOperandText (Tree.isOperandText_print hnumbers)
    rw [Tree.toPostfix_signApart,
      Postfix.flatMap_signApart_of_not_isNegative fun x hx => (hfinite x hx).2] at hback
    exact ⟨⟨fun _ token hmem htoken => hgreat ⟨token, hmem, htoken⟩, fun _ => hback⟩, fun h => absurd h hgreat⟩

end

/-- The root of 16 times a number. -/
def productText (digits : List Char) : String :=
  String.ofList (['(', 's', 'q', 'r', 't', '(', '1', '6', ')', '*'] ++ (digits ++ [')']))

def productTree (digits : List Char) : Tree :=
  .binary .mul (.apply .sqrt (.number (Decimal.Digits.toFloat false (.ofNumeral ['1', '6']))))
    (.number (Decimal.Digits.toFloat false (.ofNumeral digits)))

section

theorem toList_sqrt : (Function.unary .sqrt).name.toList = ['s', 'q', 'r', 't'] := rfl

variable {digits : List Char} (h : Token.IsNumeral digits)
include h

theorem lex_productText : Token.lex (productText digits) = .ok [⟨.leftParen, "(", 0⟩, ⟨.identifier, "sqrt", 1⟩,
    ⟨.leftParen, "(", 5⟩, ⟨.number, "16", 6⟩, ⟨.rightParen, ")", 8⟩, ⟨.operator, "*", 9⟩,
    ⟨.number, String.ofList digits, 10⟩, ⟨.rightParen, ")", (10 + digits.length : Nat)⟩] := by
  have hshort : Token.IsNumeral ['1', '6'] := .whole _ (List.all_eq_true.mp rfl) (List.cons_ne_nil _ _)
  have hcall := (Token.spells_functionName (.unary .sqrt) 1).append rfl
    ((Token.spells_numeral hshort 6).append rfl (Token.spells_rightParen 8)).leftParen
  rw [toList_sqrt] at hcall
  have hfactor := (Token.spells_numeral h 10).append rfl (Token.spells_rightParen (10 + digits.length))
  have hspells := (hcall.append rfl (@Token.Spells.sign 9 _ _ '*' .operator "*" hfactor rfl rfl)).leftParen
  refine Token.lex_of_spells ?_
  rwa [productText, String.toList_ofList]

theorem compile_productText : compile (productText digits) = .ok (productTree digits).toPostfix := by
  have hshort : Token.IsNumeral ['1', '6'] := .whole _ (List.all_eq_true.mp rfl) (List.cons_ne_nil _ _)
  have hroot := (Infix.isOperandText_number hshort).callOne (.unary .sqrt)
  rw [toList_sqrt] at hroot
  have hproduct := hroot.binary (Infix.isOperandText_number h) .mul
  refine compile_of_isOperandText ?_
  rwa [productText, String.toList_ofList]

end

/-- One with 308 zeros behind it, the last power of ten that is not read as infinity. -/
def longDigits : List Char := '1' :: List.replicate 308 '0'

/-- With this number in it the product is read back as what it was. -/
theorem compile_infixText_iff_of_product : ∃ tokens elements written,
    Token.lex (productText longDigits) = .ok tokens ∧ compile (productText longDigits) = .ok elements ∧
    Tree.ofPostfix elements = .ok (productTree longDigits) ∧ CallStack.standard.HoldsText (productTree longDigits) ∧
    infixText .standard elements = .ok written ∧ compile written = .ok elements := by
  have hdigits : ∀ c ∈ longDigits, c.isDigit := List.all_eq_true.mp (by decide +kernel)
  have hlong : Token.IsNumeral longDigits := .whole longDigits hdigits (List.cons_ne_nil _ _)
  have hlex := lex_productText hlong
  have hcompile := compile_productText hlong
  have htree := Tree.ofPostfix_toPostfix (productTree longDigits)
  have hroom : CallStack.standard.HoldsText (productTree longDigits) := by
    show 1 + max (3 + 3) 3 ≤ 995
    decide
  have hsmall : ¬(Decimal.Digits.ofNumeral longDigits).IsGreat := by decide +kernel
  obtain ⟨written, hwritten, hback, -⟩ := (compile_infixText_iff hlex hcompile .standard htree).2 hroom
  refine ⟨_, _, written, hlex, hcompile, htree, hroom, hwritten, hback.mpr fun token htoken hgreat => ?_⟩
  simp only [List.mem_cons, List.not_mem_nil, or_false] at htoken
  rcases htoken with rfl | rfl | rfl | rfl | rfl | rfl | rfl | rfl
  · cases hgreat.1
  · cases hgreat.1
  · cases hgreat.1
  · exact absurd hgreat (by decide +kernel)
  · cases hgreat.1
  · cases hgreat.1
  · obtain ⟨-, hgreat⟩ := hgreat
    rw [String.toList_ofList] at hgreat
    exact hsmall hgreat
  · cases hgreat.1

/-- The number `10 ^ 309` is read as infinity, and the text of infinity is read as a name. -/
theorem compile_infixText_of_great_number : ∃ elements tree written,
    compile (String.ofList ('1' :: List.replicate 309 '0')) = .ok elements ∧ Tree.ofPostfix elements = .ok tree ∧
    infixText .standard elements = .ok written ∧ compile written ≠ .ok elements := by
  have hdigits : ∀ c ∈ '1' :: List.replicate 309 '0', c.isDigit := List.all_eq_true.mp (by decide +kernel)
  have hcompile := compile_numeral (.whole _ hdigits (List.cons_ne_nil _ _))
  have hbits : (Decimal.Digits.ofNumeral ('1' :: List.replicate 309 '0')).nearestBits =
      Decimal.Magnitude.infinityBits := by decide +kernel
  rw [Decimal.Digits.toFloat, hbits] at hcompile
  obtain ⟨place, hinf⟩ := @compile_of_namesInfinity "inf" Infix.namesInfinity_name
  refine ⟨_, .number Decimal.infinity, "inf", hcompile, rfl, rfl, ?_⟩
  rw [hinf]
  intro h
  cases h

end Expression

end SciCalc
