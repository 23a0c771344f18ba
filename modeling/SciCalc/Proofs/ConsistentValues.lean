import SciCalc.Proofs.ClosedEvaluation
import SciCalc.Proofs.FloatOrder
import SciCalc.Proofs.Recompiling

/-!
# Consistent values

The value on the stack is always that of the tree, and a finite value agrees with itself. So the check of an
expression tells whether the expression has a value, and nothing else, as long as the tree is not too deep.
-/

namespace SciCalc

open Float.Model

/-- A finite value is equal to itself. -/
theorem Decimal.beq_self_of_isFinite {x : Float} (h : x.isFinite = true) : (x == x) = true := by
  obtain ⟨negative, bits, hbits, rfl⟩ := exists_signAndBits h
  have hcompare := compare_signedBits negative negative (Nat.le_of_lt hbits) (Nat.le_of_lt hbits)
  rw [Int.compare_eq_eq.mpr rfl] at hcompare
  show (UnpackedFloat.compare _ _ == some Ordering.eq) = true
  rw [hcompare]
  rfl

namespace Postfix

theorem IsCompiled.isWritten {element : Postfix} (h : element.IsCompiled) : element.IsWritten := by
  cases h with
  | literal value => trivial
  | operator op => trivial
  | call f argc => rfl

/-- What has a value on the stack has a tree with this value. -/
theorem exists_tree_of_evaluate {unit : AngleUnit} {elements : List Postfix} {value : Float}
    (hwritten : ∀ element ∈ elements, element.IsWritten) (h : evaluate unit elements = .ok value) :
    ∃ tree, Tree.ofPostfix elements = .ok tree ∧ tree.evaluate unit = .ok value := by
  cases htree : Tree.ofPostfix elements with
  | ok tree => exact ⟨tree, rfl, (evaluate_of_ofPostfix unit htree).symm.trans h⟩
  | error fault =>
    obtain ⟨raised, hraised, -⟩ := evaluate_error_of_ofPostfix unit hwritten htree
    cases hraised.symm.trans h

theorem evaluate_of_finiteValue {unit : AngleUnit} {elements : List Postfix} {value : Float}
    (h : finiteValue unit elements = .ok value) : evaluate unit elements = .ok value ∧ value.isFinite = true := by
  obtain ⟨found, hfound, h⟩ := bind_eq_ok h
  split at h
  · rename_i hfinite
    cases h
    exact ⟨hfound, hfinite⟩
  · contradiction

theorem finiteValue_of_ofPostfix (unit : AngleUnit) {elements : List Postfix} {tree : Tree}
    (h : Tree.ofPostfix elements = .ok tree) : finiteValue unit elements =
      tree.evaluate unit >>= fun value => if value.isFinite then .ok value else .error (.nonFinite value) := by
  rw [finiteValue, evaluate_of_ofPostfix unit h]
  rfl

end Postfix

namespace Expression

theorem close_self {x : Float} (h : x.isFinite = true) (tolerance : Float) : close tolerance x x = true := by
  rw [close, Decimal.beq_self_of_isFinite h, Bool.or_true]

theorem isCompiled_of_compile {text : String} {elements : List Postfix} (h : compile text = .ok elements) :
    ∀ element ∈ elements, element.IsCompiled := by
  rcases compile_cases text with ⟨elements', hcompile, helements⟩ | ⟨fault, -, hcompile⟩
  · obtain rfl : elements = elements' := Except.ok.inj (h.symm.trans hcompile)
    exact helements
  · cases h.symm.trans hcompile

theorem exists_tree_of_compile {text : String} {elements : List Postfix} (hcompile : compile text = .ok elements)
    {unit : AngleUnit} {value : Float} (h : Postfix.evaluate unit elements = .ok value) :
    ∃ tree, Tree.ofPostfix elements = .ok tree ∧ tree.evaluate unit = .ok value :=
  Postfix.exists_tree_of_evaluate (fun _ hmem => (isCompiled_of_compile hcompile _ hmem).isWritten) h

/-- What the evaluation of a text that compiles has found. -/
theorem finiteValue_cases {text : String} {elements : List Postfix} (hcompile : compile text = .ok elements)
    (unit : AngleUnit) :
    (∃ value, Postfix.finiteValue unit elements = .ok value ∧ evaluate text unit = .ok value) ∨
    ∃ fault, fault.OfEvaluation ∧ Postfix.finiteValue unit elements = .error fault ∧
      evaluate text unit = .error (.fault fault) := by
  rcases Postfix.finiteValue_of_isCompiled unit (isCompiled_of_compile hcompile) with
    ⟨value, hvalue, -⟩ | ⟨fault, hfault, hvalue⟩
  · exact Or.inl ⟨value, hvalue, evaluate_of_compile hcompile hvalue⟩
  · exact Or.inr ⟨fault, hfault, hvalue, evaluate_error_of_compile hcompile hvalue⟩

section

variable {stack : CallStack} {text : String} {given : Scalar} {unit : AngleUnit} {elements : List Postfix}
  (tolerance : Float)

/-- The check of an expression with a value finds the value again, or no room for the calls that find it. -/
theorem consistent_of_value {value : Float} (hunit : AngleUnit.ofScalar given = .ok unit)
    (hcompile : compile text = .ok elements) (hvalue : Postfix.finiteValue unit elements = .ok value) :
    ∃ tree, Tree.ofPostfix elements = .ok tree ∧ consistent stack text given tolerance =
      if stack.HoldsValue tree then .ok true else .error .recursionTooDeep := by
  obtain ⟨hevaluate, hfinite⟩ := Postfix.evaluate_of_finiteValue hvalue
  obtain ⟨tree, htree, htreeValue⟩ := exists_tree_of_compile hcompile hevaluate
  refine ⟨tree, htree, ?_⟩
  simp only [consistent, hcompile, hunit, hvalue, htree, ok_bind, liftM, monadLift, MonadLift.monadLift,
    CallStack.evaluate_of_value htreeValue]
  split
  · rw [ok_bind, close_self hfinite, pure_eq_ok]
  · rw [error_bind]

theorem consistent_of_fault {fault : Fault} (hunit : AngleUnit.ofScalar given = .ok unit)
    (hcompile : compile text = .ok elements) (hfault : Postfix.finiteValue unit elements = .error fault) :
    consistent stack text given tolerance = .ok false := by
  simp only [consistent, hcompile, hunit, hfault, ok_bind, pure_eq_ok]

/-- The check of an expression in a known unit fails as its compilation does. If the text compiles, the check says no
just for a fault of evaluation, never because two values differ. It says yes just if there is a value and room for the
calls that find it again, and with a value it fails just for want of room. -/
theorem consistent_iff_value (stack : CallStack) (hunit : AngleUnit.ofScalar given = .ok unit) (text : String) :
    (∀ failure, compile text = .error failure → consistent stack text given tolerance = .error failure) ∧
    ∀ elements, compile text = .ok elements →
      (consistent stack text given tolerance = .ok true ↔ ∃ value tree, evaluateIn text given = .ok value ∧
        Tree.ofPostfix elements = .ok tree ∧ stack.HoldsValue tree) ∧
      (consistent stack text given tolerance = .ok false ↔
        ∃ fault, fault.stage = .eval ∧ evaluateIn text given = .error (.fault fault)) ∧
      (∀ failure, consistent stack text given tolerance = .error failure ↔ failure = .recursionTooDeep ∧
        ∃ value tree, evaluateIn text given = .ok value ∧ Tree.ofPostfix elements = .ok tree ∧
          ¬stack.HoldsValue tree) ∧
      ∀ value, Postfix.evaluate unit elements = .ok value → ∃ tree, Tree.ofPostfix elements = .ok tree ∧
        stack.evaluate unit tree = if stack.HoldsValue tree then .ok value else .error .recursionTooDeep := by
  rw [evaluateIn_eq hunit text]
  refine ⟨fun failure hcompile => by rw [consistent, hcompile, error_bind], fun elements hcompile => ?_⟩
  have htrees (value : Float) (hvalue : Postfix.evaluate unit elements = .ok value) :
      ∃ tree, Tree.ofPostfix elements = .ok tree ∧
        stack.evaluate unit tree = if stack.HoldsValue tree then .ok value else .error .recursionTooDeep := by
    obtain ⟨tree, htree, htreeValue⟩ := exists_tree_of_compile hcompile hvalue
    exact ⟨tree, htree, CallStack.evaluate_of_value htreeValue⟩
  rcases finiteValue_cases hcompile unit with ⟨value, hvalue, hevaluate⟩ | ⟨fault, hfault, hvalue, hevaluate⟩
  · obtain ⟨tree, htree, hconsistent⟩ := @consistent_of_value stack _ _ _ _ tolerance _ hunit hcompile hvalue
    by_cases hroom : stack.HoldsValue tree
    · rw [if_pos hroom] at hconsistent
      refine ⟨?_, ?_, ?_, htrees⟩ <;> simp [hconsistent, hevaluate, htree, hroom]
    · rw [if_neg hroom] at hconsistent
      refine ⟨?_, ?_, ?_, htrees⟩ <;> simp [hconsistent, hevaluate, htree, hroom, eq_comm]
  · have hconsistent := @consistent_of_fault stack _ _ _ _ tolerance _ hunit hcompile hvalue
    refine ⟨?_, ?_, ?_, htrees⟩ <;> simp [hconsistent, hevaluate, hfault.stage]

/-- The tree of a quotient of two digits. -/
def quotientTree (c d : Char) : Tree :=
  .binary .div (.number (Decimal.Digits.toFloat false (.ofNumeral [c])))
    (.number (Decimal.Digits.toFloat false (.ofNumeral [d])))

theorem compile_quotientTree {c d : Char} (hc : c.isDigit = true) (hd : d.isDigit = true) :
    compile (String.ofList ['(', c, '/', d, ')']) = .ok (quotientTree c d).toPostfix := by
  have hquotient := (Infix.isOperandText_number (Token.isNumeral_digit hc)).binary
    (Infix.isOperandText_number (Token.isNumeral_digit hd)) .div
  exact compile_of_isOperandText (by rwa [String.toList_ofList])

theorem evaluate_quotientTree (unit : AngleUnit) (c d : Char) : (quotientTree c d).evaluate unit =
    BinaryOperator.div.apply (Decimal.Digits.toFloat false (.ofNumeral [c]))
      (Decimal.Digits.toFloat false (.ofNumeral [d])) := rfl

theorem finiteValue_tree (unit : AngleUnit) (tree : Tree) : Postfix.finiteValue unit tree.toPostfix =
    tree.evaluate unit >>= fun value => if value.isFinite then .ok value else .error (.nonFinite value) :=
  Postfix.finiteValue_of_ofPostfix unit (Tree.ofPostfix_toPostfix tree)

/-- A quotient agrees with itself even if nothing is tolerated, and a division by zero is no answer. -/
theorem consistent_iff_value_of_quotients :
    AngleUnit.ofScalar (.text "rad") = .ok .radians ∧
    consistent .standard "(7/2)" (.text "rad") 0 = .ok true ∧
    consistent .standard "(7/0)" (.text "rad") 0 = .ok false := by
  have hunit : AngleUnit.ofScalar (.text "rad") = .ok .radians := by rfl
  have hhalf := @compile_quotientTree '7' '2' rfl rfl
  have hnothing := @compile_quotientTree '7' '0' rfl rfl
  have hdefined : (Decimal.Digits.toFloat false (.ofNumeral ['2']) == 0) = false := by decide +kernel
  have hzero : (Decimal.Digits.toFloat false (.ofNumeral ['0']) == 0) = true := by decide +kernel
  have hfinite : (Decimal.Digits.toFloat false (.ofNumeral ['7']) /
      Decimal.Digits.toFloat false (.ofNumeral ['2'])).isFinite = true := by decide +kernel
  have hvalue : (quotientTree '7' '2').evaluate .radians = .ok (Decimal.Digits.toFloat false (.ofNumeral ['7']) /
      Decimal.Digits.toFloat false (.ofNumeral ['2'])) := by
    rw [evaluate_quotientTree, BinaryOperator.apply, hdefined, if_neg Bool.false_ne_true]
  have hfault : (quotientTree '7' '0').evaluate .radians = .error .divisionByZero := by
    rw [evaluate_quotientTree, BinaryOperator.apply, if_pos hzero]
  have hok := evaluate_of_compile hhalf ((finiteValue_tree .radians _).trans (by
    rw [hvalue, ok_bind, if_pos hfinite]))
  have herror := evaluate_error_of_compile hnothing ((finiteValue_tree .radians _).trans (by
    rw [hfault, error_bind]))
  rw [← evaluateIn_eq hunit] at hok herror
  have hroom : CallStack.standard.HoldsValue (quotientTree '7' '2') := by
    show 2 + max 1 1 ≤ 995
    decide
  exact ⟨hunit,
    ((consistent_iff_value 0 .standard hunit "(7/2)").2 _ hhalf).1.mpr ⟨_, _, hok, Tree.ofPostfix_toPostfix _, hroom⟩,
    ((consistent_iff_value 0 .standard hunit "(7/0)").2 _ hnothing).2.1.mpr ⟨_, rfl, herror⟩⟩

end

/-! ### Repeated signs -/

section

theorem exists_signed {text : List Char} {postorder : List Postfix} (h : Infix.IsOperandText text postorder)
    (count offset : Nat) : ∃ phrase : Infix .signed,
      Token.Spells offset (List.replicate count '-' ++ text) phrase.tokens ∧
      phrase.postorder = postorder ++ List.replicate count (.operator Operator.negSymbol) := by
  induction count generalizing offset with
  | zero =>
    obtain ⟨phrase, rfl, hspells⟩ := h offset
    exact ⟨phrase.toSigned, hspells, (List.append_nil _).symm⟩
  | succ count ih =>
    obtain ⟨phrase, hspells, hpostorder⟩ := ih (offset + 1)
    refine ⟨.minus offset phrase, hspells.minus, ?_⟩
    rw [Infix.postorder, hpostorder, List.append_assoc, List.replicate_succ']

theorem compile_repeated {text : List Char} {postorder : List Postfix} (h : Infix.IsOperandText text postorder)
    (count : Nat) : compile (String.ofList (List.replicate count '-' ++ text)) =
      .ok (postorder ++ List.replicate count (.operator Operator.negSymbol)) := by
  obtain ⟨phrase, hspells, hpostorder⟩ := exists_signed h count 0
  rw [← hpostorder]
  exact @compile_of_spells _ (.product (.signed phrase)) (by rwa [String.toList_ofList])

/-- Signs before a number do not make its value infinite. -/
theorem exists_finite_repeated {unit : AngleUnit} {x : Float} (h : x.isFinite = true) (count : Nat) :
    ∃ y, ((Tree.number x).repeated .neg count).evaluate unit = .ok y ∧ y.isFinite = true := by
  induction count with
  | zero => exact ⟨x, rfl, h⟩
  | succ count ih =>
    obtain ⟨y, hy, hfinite⟩ := ih
    obtain ⟨negative, bits, hbits, rfl⟩ := Decimal.exists_signAndBits hfinite
    refine ⟨_, ?_, Decimal.isFinite_signAndBits (!negative) hbits⟩
    rw [Tree.repeated, Tree.evaluate, hy, ← Decimal.neg_signAndBits negative hbits]
    rfl

/-- A one with so many signs before it as a text of a thousand characters can hold. -/
def deepText : String := String.ofList (List.replicate 999 '-' ++ ['1'])

/-- This text has a value, but its tree is too deep to find the value again. -/
theorem consistent_of_deep_text : ∃ elements value, compile deepText = .ok elements ∧
    evaluateIn deepText (.text "radians") = .ok value ∧
    consistent .standard deepText (.text "radians") 0 = .error .recursionTooDeep := by
  have hone : Token.IsNumeral ['1'] := Token.isNumeral_digit rfl
  have hcompile := compile_repeated (Infix.isOperandText_number hone) 999
  have hunit : AngleUnit.ofScalar (.text "radians") = .ok .radians := by rfl
  have htree := Tree.ofPostfix_toPostfix
    ((Tree.number (Decimal.Digits.toFloat false (.ofNumeral ['1']))).repeated .neg 999)
  rw [Tree.toPostfix_repeated] at htree
  have hfinite : (Decimal.Digits.toFloat false (.ofNumeral ['1'])).isFinite = true := by decide +kernel
  obtain ⟨value, hvalue, hvalueFinite⟩ := @exists_finite_repeated .radians _ hfinite 999
  have hfound := (Postfix.finiteValue_of_ofPostfix .radians htree).trans (by
    rw [hvalue, ok_bind, if_pos hvalueFinite])
  have hdeep : ¬CallStack.standard.HoldsValue
      ((Tree.number (Decimal.Digits.toFloat false (.ofNumeral ['1']))).repeated .neg 999) := by
    rw [CallStack.HoldsValue, Tree.depth_repeated fun operand => rfl]
    show ¬999 * 2 + 1 ≤ 995
    decide
  obtain ⟨tree, htree', hconsistent⟩ := @consistent_of_value .standard _ _ _ _ 0 _ hunit hcompile hfound
  cases htree.symm.trans htree'
  refine ⟨_, value, hcompile, ?_, hconsistent.trans (if_neg hdeep)⟩
  rw [evaluateIn_eq hunit]
  exact evaluate_of_compile hcompile hfound

end

end Expression

end SciCalc
