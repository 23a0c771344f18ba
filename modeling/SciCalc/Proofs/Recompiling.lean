import SciCalc.Proofs.InfixTexts
import SciCalc.Proofs.PrintedTrees
import SciCalc.Proofs.StackAndTree

/-!
# Compiling printed trees

The infix text of a postfix expression compiles to that expression, but for the signs of negative literals. What
it compiles to has the same value and the same text. A tree that is too deep for nested calls has no text.
-/

namespace SciCalc

theorem Postfix.flatMap_signApart_of_not_isNegative {elements : List Postfix}
    (h : ∀ x, .literal x ∈ elements → Decimal.isNegative x = false) :
    elements.flatMap signApart = elements := by
  induction elements with
  | nil => rfl
  | cons element rest ih =>
    have hfirst : signApart element = [element] := by
      cases element with
      | literal x => rw [signApart, h x List.mem_cons_self, if_neg Bool.false_ne_true]
      | _ => rfl
    have hrest := ih fun x hx => h x (List.mem_cons_of_mem element hx)
    rw [List.flatMap_cons, hfirst, hrest, List.singleton_append]

namespace Tree

/-- The sign of a number can as well be applied to it. -/
theorem evaluate_signApart (unit : AngleUnit) {tree : Tree} (h : tree.IsFinite) :
    tree.signApart.evaluate unit = tree.evaluate unit := by
  induction tree with
  | number x =>
    obtain ⟨negative, bits, hbits, rfl⟩ := Decimal.exists_signAndBits h
    rw [signApart, Decimal.isNegative_signAndBits negative hbits]
    cases negative with
    | true =>
      rw [Decimal.abs_signAndBits true hbits]
      exact congrArg Except.ok (Decimal.neg_signAndBits false hbits)
    | false => rfl
  | unary op operand ih => simp only [signApart, evaluate, ih h]
  | binary op left right ihl ihr => simp only [signApart, evaluate, ihl h.1, ihr h.2]
  | apply f argument ih => simp only [signApart, evaluate, ih h]
  | power base exponent ihb ihe => simp only [signApart, evaluate, ihb h.1, ihe h.2]

/-- The sign is printed alike, as that of a number and as an operator. -/
theorem print_signApart {tree : Tree} (h : tree.IsFinite) : tree.signApart.print = tree.print := by
  induction tree with
  | number x =>
    obtain ⟨negative, bits, hbits, rfl⟩ := Decimal.exists_signAndBits h
    rw [signApart, Decimal.isNegative_signAndBits negative hbits]
    cases negative with
    | true =>
      apply String.toList_injective
      rw [if_pos rfl, Decimal.abs_signAndBits true hbits, toList_print_neg]
      simp only [print, Decimal.toList_printNumber _ hbits, if_true, Bool.false_eq_true, if_false]
    | false => rfl
  | unary op operand ih => simp only [signApart, print, ih h]
  | binary op left right ihl ihr => simp only [signApart, print, ihl h.1, ihr h.2]
  | apply f argument ih => simp only [signApart, print, ih h]
  | power base exponent ihb ihe => simp only [signApart, print, ihb h.1, ihe h.2]

end Tree

namespace Expression

open Postfix Token

/-- What spells a phrase compiles to its post-order. -/
theorem compile_of_spells {text : String} {phrase : Infix .sum} (h : Spells 0 text.toList phrase.tokens) :
    compile text = .ok phrase.postorder := by
  have hplace := phrase.inPlace_tokens
  have hne : phrase.tokens ≠ [] := by
    intro hnil
    rw [hnil] at hplace
    contradiction
  rw [compile_of_lex (lex_of_spells h) hne]
  exact ofTokens_of_readsPhrase phrase.isRead

theorem compile_of_isOperandText {text : String} {postorder : List Postfix}
    (h : Infix.IsOperandText text.toList postorder) : compile text = .ok postorder := by
  obtain ⟨phrase, rfl, hspells⟩ := h 0
  exact @compile_of_spells _ phrase.toSum hspells

theorem compile_numeral {digits : List Char} (h : Token.IsNumeral digits) :
    compile (String.ofList digits) = .ok [.literal (Decimal.Digits.toFloat false (.ofNumeral digits))] := by
  refine compile_of_isOperandText ?_
  rw [String.toList_ofList]
  exact Infix.isOperandText_number h

theorem infixText_eq (stack : CallStack) {elements : List Postfix} {tree : Tree}
    (htree : Tree.ofPostfix elements = .ok tree) : infixText stack elements =
      if stack.HoldsText tree then .ok tree.print else .error .recursionTooDeep := by
  rw [infixText, htree]
  exact stack.print_eq tree

/-- A postfix expression with finite literals has an infix text if there is room for the calls that write it. The text
compiles to the expression, but that a negative literal becomes its absolute value with a minus behind it. This changes
neither the value nor the text, if there is room for the minus as well, and without negative literals the expression is
what it was. -/
theorem compile_infixText (stack : CallStack) {elements : List Postfix} {tree : Tree}
    (htree : Tree.ofPostfix elements = .ok tree)
    (hfinite : ∀ x, .literal x ∈ elements → x.isFinite = true) :
    (¬stack.HoldsText tree → infixText stack elements = .error .recursionTooDeep) ∧
    (stack.HoldsText tree → ∃ text, infixText stack elements = .ok text ∧
      compile text = .ok (elements.flatMap signApart) ∧
      (∀ unit, Postfix.evaluate unit (elements.flatMap signApart) = Postfix.evaluate unit elements) ∧
      infixText stack (elements.flatMap signApart) =
        (if stack.HoldsText tree.signApart then .ok text else .error .recursionTooDeep) ∧
      ((∀ x, .literal x ∈ elements → Decimal.isNegative x = false) →
        elements.flatMap signApart = elements)) := by
  rw [infixText_eq stack htree]
  refine ⟨fun hroom => if_neg hroom, fun hroom => ?_⟩
  obtain rfl := Tree.toPostfix_of_ofPostfix htree
  have hnumbers := Tree.isFinite_of_toPostfix hfinite
  have hapart := Tree.ofPostfix_toPostfix tree.signApart
  rw [Tree.toPostfix_signApart] at hapart
  refine ⟨tree.print, if_pos hroom, ?_, fun unit => ?_, ?_, fun hsigns => ?_⟩
  · rw [← Tree.toPostfix_signApart]
    exact compile_of_isOperandText (Tree.isOperandText_print hnumbers)
  · rw [evaluate_of_ofPostfix unit hapart, evaluate_of_ofPostfix unit htree,
      Tree.evaluate_signApart unit hnumbers]
  · rw [infixText_eq stack hapart, Tree.print_signApart hnumbers]
  · exact flatMap_signApart_of_not_isNegative hsigns

/-- In the text of `-2 3 ^` the sign is an operator, which stays with its number. -/
theorem compile_infixText_negative_base :
    Tree.ofPostfix [literal (-2), literal 3, operator "^"] =
      .ok (.binary .pow (.number (-2)) (.number 3)) ∧
    (∀ x, .literal x ∈ [literal (-2), literal 3, operator "^"] → x.isFinite = true) ∧
    CallStack.standard.HoldsText (.binary .pow (.number (-2)) (.number 3)) ∧
    ∃ text, infixText .standard [literal (-2), literal 3, operator "^"] = .ok text ∧
      compile text = .ok [literal (-2 : Float).abs, operator "u-", literal 3, operator "^"] ∧
      infixText .standard [literal (-2 : Float).abs, operator "u-", literal 3, operator "^"] = .ok text := by
  have htree : Tree.ofPostfix [literal (-2), literal 3, operator "^"] =
      .ok (.binary .pow (.number (-2)) (.number 3)) := rfl
  have hfinite : ∀ x, .literal x ∈ [literal (-2), literal 3, operator "^"] → x.isFinite = true := by
    intro x hx
    simp only [List.mem_cons, literal.injEq, reduceCtorEq, List.not_mem_nil, or_false] at hx
    rcases hx with rfl | rfl <;> decide +kernel
  have hbase : Decimal.isNegative (-2) = true := by decide +kernel
  have hexponent : Decimal.isNegative 3 = false := by decide +kernel
  have hsigns : [literal (-2), literal 3, operator "^"].flatMap signApart =
      [literal (-2 : Float).abs, operator "u-", literal 3, operator "^"] := by
    simp [signApart, hbase, hexponent, Operator.negSymbol]
  have happart : (Tree.binary .pow (.number (-2)) (.number 3)).signApart =
      .binary .pow (.unary .neg (.number (-2 : Float).abs)) (.number 3) := by
    simp [Tree.signApart, hbase, hexponent]
  have hroom : CallStack.standard.HoldsText (.binary .pow (.number (-2)) (.number 3)) := by decide
  have hroomApart : CallStack.standard.HoldsText
      (.binary .pow (.unary .neg (.number (-2 : Float).abs)) (.number 3)) := by decide
  obtain ⟨text, htext, hcompile, -, hagain, -⟩ := (compile_infixText .standard htree hfinite).2 hroom
  rw [happart, if_pos hroomApart] at hagain
  rw [hsigns] at hcompile hagain
  exact ⟨htree, hfinite, hroom, text, htext, hcompile, hagain⟩

/-- One with so many minus signs has a tree, but it is too deep for the calls that would write it. -/
theorem infixText_of_deep_tree : ∃ tree,
    Tree.ofPostfix (literal 1 :: List.replicate 999 (operator "u-")) = .ok tree ∧
    (∀ x, .literal x ∈ literal 1 :: List.replicate 999 (operator "u-") → x.isFinite = true) ∧
    infixText .standard (literal 1 :: List.replicate 999 (operator "u-")) = .error .recursionTooDeep := by
  have htree := Tree.ofPostfix_toPostfix ((Tree.number 1).repeated .neg 999)
  rw [Tree.toPostfix_repeated] at htree
  have hfinite : ∀ x, .literal x ∈ literal 1 :: List.replicate 999 (operator "u-") → x.isFinite = true := by
    intro x hx
    rcases List.mem_cons.mp hx with hx | hx
    · cases hx
      decide +kernel
    · cases List.eq_of_mem_replicate hx
  have hdeep : ¬CallStack.standard.HoldsText ((Tree.number 1).repeated .neg 999) := by
    rw [CallStack.HoldsText, Tree.depth_repeated fun operand => rfl]
    decide
  refine ⟨_, htree, hfinite, ?_⟩
  exact (infixText_eq .standard htree).trans (if_neg hdeep)

end Expression

end SciCalc
