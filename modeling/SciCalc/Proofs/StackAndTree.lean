import SciCalc.Postfix.Machine
import SciCalc.Proofs.NestedCalls
import SciCalc.Proofs.TreeBuilding

/-!
# Stack values and tree values

The stack of values and the stack of trees grow in step: at every element the values are those of the trees.
So the value of a postfix expression on the stack is the value of its tree, faults included, if the tree is not too
deep for nested calls.
-/

namespace SciCalc

/-- A division by zero or a function outside its domain: the faults that the operands' values decide. -/
def Fault.IsArithmetic (fault : Fault) : Prop :=
  fault.kind = .divisionByZero ∨ fault.kind = .domain

theorem BinaryOperator.apply_error_isArithmetic {op : BinaryOperator} {x y : Float} {fault : Fault}
    (h : op.apply x y = .error fault) : fault.IsArithmetic := by
  cases op with
  | div =>
    simp only [BinaryOperator.apply] at h
    split at h
    · cases h
      exact Or.inl rfl
    · contradiction
  | _ => contradiction

theorem UnaryFunction.apply_error_isArithmetic {unit : AngleUnit} {f : UnaryFunction} {x : Float}
    {fault : Fault} (h : f.apply unit x = .error fault) : fault.IsArithmetic := by
  cases f with
  | sqrt | log | ln =>
    simp only [UnaryFunction.apply] at h
    split at h
    · cases h
      exact Or.inr rfl
    · contradiction
  | _ => contradiction

namespace Tree

theorem evaluate_error_isArithmetic {unit : AngleUnit} {tree : Tree} {fault : Fault}
    (h : tree.evaluate unit = .error fault) : fault.IsArithmetic := by
  induction tree generalizing fault with
  | number x => contradiction
  | unary op operand ih =>
    rcases bind_eq_error h with ho | ⟨x, _, hx⟩
    · exact ih ho
    · contradiction
  | binary op left right ihl ihr =>
    rcases bind_eq_error h with hl | ⟨x, _, h⟩
    · exact ihl hl
    rcases bind_eq_error h with hr | ⟨y, _, h⟩
    · exact ihr hr
    · exact BinaryOperator.apply_error_isArithmetic h
  | apply f argument ih =>
    rcases bind_eq_error h with ha | ⟨x, _, h⟩
    · exact ih ha
    · exact UnaryFunction.apply_error_isArithmetic h
  | power base exponent ihb ihe =>
    rcases bind_eq_error h with hb | ⟨x, _, h⟩
    · exact ihb hb
    rcases bind_eq_error h with he | ⟨y, _, h⟩
    · exact ihe he
    · exact BinaryOperator.apply_error_isArithmetic h

/-- The values of a stack of trees, computed from the bottom of the stack to its top. -/
def evaluateAll (unit : AngleUnit) : List Tree → Except Fault (List Float)
  | [] => .ok []
  | tree :: rest => do
    let values ← evaluateAll unit rest
    return (← tree.evaluate unit) :: values

theorem evaluateAll_cons (unit : AngleUnit) (tree : Tree) (rest : List Tree) :
    evaluateAll unit (tree :: rest) =
      evaluateAll unit rest >>= fun values => tree.evaluate unit >>= fun x => .ok (x :: values) := rfl

theorem length_of_evaluateAll {unit : AngleUnit} {trees : List Tree} {values : List Float}
    (h : evaluateAll unit trees = .ok values) : values.length = trees.length := by
  induction trees generalizing values with
  | nil =>
    cases h
    rfl
  | cons tree rest ih =>
    obtain ⟨below, hb, h⟩ := bind_eq_ok h
    obtain ⟨x, _, h⟩ := bind_eq_ok h
    cases h
    exact congrArg (· + 1) (ih hb)

theorem evaluateAll_error_isArithmetic {unit : AngleUnit} {trees : List Tree} {fault : Fault}
    (h : evaluateAll unit trees = .error fault) : fault.IsArithmetic := by
  induction trees with
  | nil => contradiction
  | cons tree rest ih =>
    rcases bind_eq_error h with hb | ⟨below, _, h⟩
    · exact ih hb
    rcases bind_eq_error h with ht | ⟨x, _, h⟩
    · exact evaluate_error_isArithmetic ht
    · contradiction

end Tree

namespace Postfix

open SciCalc.Tree

theorem step_unary (unit : AngleUnit) (op : UnaryOperator) (x : Float) (rest : List Float) :
    step unit (x :: rest) (.operator (Operator.unary op).symbol) = .ok (op.apply x :: rest) := by
  simp only [step, applyOperator, Operator.ofSymbol?_symbol]

theorem step_binary (unit : AngleUnit) (op : BinaryOperator) (x y : Float) (rest : List Float) :
    step unit (y :: x :: rest) (.operator (Operator.binary op).symbol) =
      op.apply x y >>= fun z => .ok (z :: rest) := by
  simp only [step, applyOperator, Operator.ofSymbol?_symbol]
  rfl

theorem step_apply (unit : AngleUnit) (f : UnaryFunction) (x : Float) (rest : List Float) :
    step unit (x :: rest) (.call (Function.unary f).name (some 1)) =
      f.apply unit x >>= fun z => .ok (z :: rest) := by
  simp only [step, applyFunction, Function.ofName?_name]
  rfl

theorem step_power (unit : AngleUnit) (x y : Float) (rest : List Float) :
    step unit (y :: x :: rest) (.call Function.power.name (some 2)) =
      BinaryOperator.pow.apply x y >>= fun z => .ok (z :: rest) := by
  simp only [step, applyFunction, Function.ofName?_name]
  rfl

/-- The values of the stack of trees before an element become, by that element, the values of the stack of
trees after it. -/
theorem step_evaluateAll (unit : AngleUnit) {trees grown : List Tree} {element : Postfix}
    (h : grow trees element = .ok grown) :
    (evaluateAll unit trees >>= fun values => step unit values element) = evaluateAll unit grown := by
  cases grows_of_grow h with
  | number x => rfl
  | unary op t rest =>
    simp only [evaluateAll_cons, Tree.evaluate, bind_assoc, ok_bind, step_unary, pure_eq_ok]
  | binary op t u rest =>
    simp only [evaluateAll_cons, Tree.evaluate, bind_assoc, ok_bind, step_binary]
  | apply f t rest =>
    simp only [evaluateAll_cons, Tree.evaluate, bind_assoc, ok_bind, step_apply]
  | power t u rest =>
    simp only [evaluateAll_cons, Tree.evaluate, bind_assoc, ok_bind, step_power]

theorem run_evaluateAll (unit : AngleUnit) {trees grown : List Tree} {elements : List Postfix}
    (h : elements.foldlM grow trees = .ok grown) :
    (evaluateAll unit trees >>= fun values => run unit values elements) = evaluateAll unit grown := by
  induction elements generalizing trees with
  | nil =>
    obtain rfl : trees = grown := Except.ok.inj h
    exact bind_pure _
  | cons element rest ih =>
    rw [List.foldlM_cons] at h
    obtain ⟨next, hn, h⟩ := bind_eq_ok h
    calc
      (evaluateAll unit trees >>= fun values => run unit values (element :: rest))
        = (evaluateAll unit trees >>= fun values => step unit values element) >>=
            fun values => run unit values rest := (bind_assoc _ _ _).symm
      _ = evaluateAll unit next >>= fun values => run unit values rest := by
        rw [step_evaluateAll unit hn]
      _ = evaluateAll unit grown := ih h

theorem run_eq_evaluateAll (unit : AngleUnit) {grown : List Tree} {elements : List Postfix}
    (h : elements.foldlM grow [] = .ok grown) : run unit [] elements = evaluateAll unit grown :=
  run_evaluateAll unit h

/-- An element as the parser writes it: it is no mark, and a call tells the number of its arguments. -/
def IsWritten : Postfix → Prop
  | literal _ | operator _ => True
  | call _ argc => argc.isSome
  | mark _ => False

theorem step_error_of_growOperator (unit : AngleUnit) {symbol : String} {trees : List Tree}
    {values : List Float} {fault : Fault} (hlen : values.length = trees.length)
    (h : growOperator symbol trees = .error fault) : step unit values (.operator symbol) = .error fault := by
  simp only [step, growOperator, applyOperator] at h ⊢
  cases hop : Operator.ofSymbol? symbol with
  | none =>
    simp only [hop] at h ⊢
    cases h
    rfl
  | some op =>
    simp only [hop] at h ⊢
    match op, trees, values with
    | .unary _, [], [] => simpa using h
    | .unary _, _ :: _, _ => contradiction
    | .binary _, [], [] => simpa using h
    | .binary _, [_], [_] => simpa using h
    | .binary _, _ :: _ :: _, _ => contradiction

/-- The stack of values finds the same kind of fault; it may count other arguments than the tree does. -/
theorem step_error_of_growFunction (unit : AngleUnit) {name : String} {argc : Int} {trees : List Tree}
    {values : List Float} {fault : Fault} (hlen : values.length = trees.length)
    (h : growFunction name (some argc) trees = .error fault) :
    ∃ raised, step unit values (.call name (some argc)) = .error raised ∧ raised.kind = fault.kind := by
  simp only [step, growFunction, applyFunction] at h ⊢
  cases hf : Function.ofName? name with
  | none =>
    simp only [hf] at h ⊢
    exact ⟨_, rfl, by cases h; rfl⟩
  | some f =>
    simp only [hf, Option.getD_some] at h ⊢
    by_cases hargc : argc = f.arity
    · subst hargc
      simp only [bne_self_eq_false, Bool.false_eq_true, if_false] at h ⊢
      match f, trees, values with
      | .unary _, [], [] => exact ⟨_, rfl, by cases h; rfl⟩
      | .unary _, _ :: _, _ => contradiction
      | .power, [], [] => exact ⟨_, rfl, by cases h; rfl⟩
      | .power, [_], [_] => exact ⟨_, rfl, by cases h; rfl⟩
      | .power, _ :: _ :: _, _ => contradiction
    · have hsome : some argc ≠ some (f.arity : Int) := fun e => hargc (Option.some.inj e)
      simp only [bne_iff_ne.mpr hargc, bne_iff_ne.mpr hsome, if_true] at h ⊢
      exact ⟨_, rfl, by cases h; rfl⟩

theorem step_error_of_grow (unit : AngleUnit) {element : Postfix} {trees : List Tree}
    {values : List Float} {fault : Fault} (hw : element.IsWritten) (hlen : values.length = trees.length)
    (h : grow trees element = .error fault) :
    ∃ raised, step unit values element = .error raised ∧ raised.kind = fault.kind := by
  match element, hw with
  | .literal x, _ => contradiction
  | .operator symbol, _ => exact ⟨fault, step_error_of_growOperator unit hlen h, rfl⟩
  | .call name (some argc), _ => exact step_error_of_growFunction unit hlen h

/-- The value on the stack is the value of the tree, faults included. -/
theorem evaluate_of_ofPostfix (unit : AngleUnit) {elements : List Postfix} {tree : Tree}
    (h : ofPostfix elements = .ok tree) : evaluate unit elements = tree.evaluate unit := by
  have hrun := run_eq_evaluateAll unit (foldlM_grow_of_ofPostfix h)
  simp only [evaluate, hrun, evaluateAll, ok_bind, bind_assoc, pure_eq_ok]
  exact bind_pure _

/-- The run fails at an element that the trees have taken in without a fault. -/
def FailsWhereTreesGrow (unit : AngleUnit) (elements : List Postfix) (fault : Fault) : Prop :=
  ∃ front element back trees, elements = front ++ element :: back ∧
    run unit [] (front ++ [element]) = .error fault ∧
    (front ++ [element]).foldlM grow [] = .ok trees

theorem failsWhereTreesGrow_of_evaluateAll (unit : AngleUnit) {elements : List Postfix}
    {trees : List Tree} {fault : Fault} (h : elements.foldlM grow [] = .ok trees)
    (hfault : evaluateAll unit trees = .error fault) :
    FailsWhereTreesGrow unit elements fault := by
  have hrun := (run_eq_evaluateAll unit h).trans hfault
  -- the run fails at some element, and there the trees have gone on to grow
  obtain ⟨front, element, back, values, rfl, hfront, hstep⟩ := foldlM_eq_error hrun
  rw [List.append_cons, List.foldlM_append] at h
  obtain ⟨grown, hgrown, _⟩ := bind_eq_ok h
  refine ⟨front, element, back, grown, rfl, ?_, hgrown⟩
  unfold run
  rw [foldlM_append_ok hfront, List.foldlM_cons, hstep, error_bind]

theorem FailsWhereTreesGrow.append {unit : AngleUnit} {elements : List Postfix} {fault : Fault}
    (h : FailsWhereTreesGrow unit elements fault) (rest : List Postfix) :
    FailsWhereTreesGrow unit (elements ++ rest) fault := by
  obtain ⟨front, element, back, trees, rfl, hrun, hgrow⟩ := h
  exact ⟨front, element, back ++ rest, trees, by simp, hrun, hgrow⟩

theorem FailsWhereTreesGrow.evaluate {unit : AngleUnit} {elements : List Postfix} {fault : Fault}
    (h : FailsWhereTreesGrow unit elements fault) : evaluate unit elements = .error fault := by
  obtain ⟨front, element, back, trees, rfl, hrun, _⟩ := h
  have hall : run unit [] (front ++ element :: back) = .error fault := by
    unfold run at hrun ⊢
    rw [List.append_cons, List.foldlM_append, hrun, error_bind]
  rw [Postfix.evaluate, hall, error_bind]

/-- Where no tree can be built, the stack of values fails with the same kind of fault, unless the operands'
values made an element before that fail. -/
theorem evaluate_error_of_ofPostfix (unit : AngleUnit) {elements : List Postfix} {fault : Fault}
    (hw : ∀ element ∈ elements, element.IsWritten) (h : ofPostfix elements = .error fault) :
    ∃ raised, evaluate unit elements = .error raised ∧
      (raised.kind = fault.kind ∨ raised.IsArithmetic ∧ FailsWhereTreesGrow unit elements raised) := by
  rcases bind_eq_error h with h | ⟨trees, htrees, h⟩
  · obtain ⟨front, element, back, trees, rfl, hfront, hgrow⟩ := foldlM_eq_error h
    cases hvalues : evaluateAll unit trees with
    | error raised =>
      have hfails := (failsWhereTreesGrow_of_evaluateAll unit hfront hvalues).append (element :: back)
      exact ⟨raised, hfails.evaluate, Or.inr ⟨evaluateAll_error_isArithmetic hvalues, hfails⟩⟩
    | ok values =>
      have hrun := (run_eq_evaluateAll unit hfront).trans hvalues
      have hlen := length_of_evaluateAll hvalues
      obtain ⟨raised, hstep, hkind⟩ := step_error_of_grow unit (hw element (by simp)) hlen hgrow
      refine ⟨raised, ?_, Or.inl hkind⟩
      have hall : run unit [] (front ++ element :: back) = .error raised := by
        unfold run at hrun ⊢
        rw [foldlM_append_ok hrun, List.foldlM_cons, hstep, error_bind]
      rw [Postfix.evaluate, hall, error_bind]
  · cases hvalues : evaluateAll unit trees with
    | error raised =>
      have hfails := failsWhereTreesGrow_of_evaluateAll unit htrees hvalues
      exact ⟨raised, hfails.evaluate, Or.inr ⟨evaluateAll_error_isArithmetic hvalues, hfails⟩⟩
    | ok values =>
      have hrun := (run_eq_evaluateAll unit htrees).trans hvalues
      have hlen := length_of_evaluateAll hvalues
      refine ⟨.malformed values.length, ?_, Or.inl ?_⟩
      · rw [Postfix.evaluate, hrun, ok_bind]
        split
        · rename_i value
          obtain ⟨tree, rfl⟩ := List.length_eq_one_iff.mp hlen.symm
          contradiction
        · rfl
      · split at h
        · contradiction
        · cases h
          rfl

/-- An operator or a call stands in the table of its kind. -/
def IsListed : Postfix → Prop
  | operator symbol => (Operator.ofSymbol? symbol).isSome
  | call name _ => (Function.ofName? name).isSome
  | literal _ | mark _ => True

theorem isListed_of_mem_toPostfix {tree : Tree} {element : Postfix} (h : element ∈ tree.toPostfix) :
    element.IsListed := by
  have hop (op : Operator) : (operator op.symbol).IsListed :=
    Option.isSome_iff_exists.mpr ⟨op, Operator.ofSymbol?_symbol op⟩
  have hcall (f : Function) (argc : Option Int) : (call f.name argc).IsListed :=
    Option.isSome_iff_exists.mpr ⟨f, Function.ofName?_name f⟩
  induction tree with
  | number x =>
    rw [List.mem_singleton.mp h]
    trivial
  | unary op operand ih =>
    rcases List.mem_append.mp h with h | h
    · exact ih h
    · exact List.mem_singleton.mp h ▸ hop _
  | binary op left right ihl ihr =>
    rcases List.mem_append.mp h with h | h
    · exact (List.mem_append.mp h).elim ihl ihr
    · exact List.mem_singleton.mp h ▸ hop _
  | apply f argument ih =>
    rcases List.mem_append.mp h with h | h
    · exact ih h
    · exact List.mem_singleton.mp h ▸ hcall (.unary f) _
  | power base exponent ihb ihe =>
    rcases List.mem_append.mp h with h | h
    · exact (List.mem_append.mp h).elim ihb ihe
    · exact List.mem_singleton.mp h ▸ hcall .power _

/-- Nested calls find the value on the stack. They fail for want of room, or with the fault of the stack. -/
theorem evaluate_tree_cases (stack : CallStack) (unit : AngleUnit) {elements : List Postfix} {tree : Tree}
    (htree : ofPostfix elements = .ok tree) :
    (∀ value, stack.evaluate unit tree = .ok value → evaluate unit elements = .ok value) ∧
    ∀ failure, stack.evaluate unit tree = .error failure →
      (failure = .recursionTooDeep ∧ ¬stack.HoldsValue tree) ∨
      ∃ fault, failure = .fault fault ∧ fault.IsArithmetic ∧ evaluate unit elements = .error fault := by
  rw [evaluate_of_ofPostfix unit htree]
  rcases stack.evaluate_cases unit tree with hfound | ⟨hdeep, hroom⟩
  · rw [hfound]
    cases hvalue : tree.evaluate unit with
    | ok value =>
      refine ⟨fun value' h => congrArg Except.ok (Except.ok.inj h), fun failure h => ?_⟩
      contradiction
    | error fault =>
      refine ⟨fun value h => ?_, fun failure h => ?_⟩
      · contradiction
      · exact Or.inr ⟨fault, (Except.error.inj h).symm, evaluate_error_isArithmetic hvalue, rfl⟩
  · rw [hdeep]
    refine ⟨fun value h => ?_, fun failure h => ?_⟩
    · contradiction
    · exact Or.inl ⟨(Except.error.inj h).symm, hroom⟩

/-- Values on the stack and values of trees agree on every sequence of written elements whose tree is not too deep for
nested calls. A value is found on the stack exactly if there is a tree with that value. Beside the want of room the only
failures of a tree are arithmetic and are found on the stack too, for its symbols and names stand in the tables. Where
there is no tree the stack is at fault in the same way or arithmetically at an earlier element. -/
theorem stack_value_is_tree_value (stack : CallStack) (unit : AngleUnit) (elements : List Postfix)
    (hw : ∀ element ∈ elements, element.IsWritten) :
    (∀ value, evaluate unit elements = .ok value → ∃ tree, ofPostfix elements = .ok tree ∧
      stack.evaluate unit tree = if stack.HoldsValue tree then .ok value else .error .recursionTooDeep) ∧
    (∀ tree, ofPostfix elements = .ok tree →
      (∀ value, stack.evaluate unit tree = .ok value → evaluate unit elements = .ok value) ∧
      (∀ failure, stack.evaluate unit tree = .error failure →
        (failure = .recursionTooDeep ∧ ¬stack.HoldsValue tree) ∨
        ∃ fault, failure = .fault fault ∧ fault.IsArithmetic ∧ evaluate unit elements = .error fault) ∧
      ∀ element ∈ elements, element.IsListed) ∧
    (∀ fault, ofPostfix elements = .error fault → ∃ raised, evaluate unit elements = .error raised ∧
      (raised.kind = fault.kind ∨ raised.IsArithmetic ∧ FailsWhereTreesGrow unit elements raised)) := by
  refine ⟨fun value hvalue => ?_, fun tree htree => ?_, fun fault hfault => ?_⟩
  · cases htree : ofPostfix elements with
    | ok tree =>
      have htreeValue := (evaluate_of_ofPostfix unit htree).symm.trans hvalue
      exact ⟨tree, rfl, CallStack.evaluate_of_value htreeValue⟩
    | error fault =>
      obtain ⟨raised, hraised, -⟩ := evaluate_error_of_ofPostfix unit hw htree
      cases hraised.symm.trans hvalue
  · obtain ⟨hvalues, hfailures⟩ := evaluate_tree_cases stack unit htree
    refine ⟨hvalues, hfailures, fun element helement => ?_⟩
    rw [← Tree.toPostfix_of_ofPostfix htree] at helement
    exact isListed_of_mem_toPostfix helement
  · exact evaluate_error_of_ofPostfix unit hw hfault

/-- A division by zero is found on the stack before the missing operand behind it. -/
theorem stack_value_is_tree_value_of_early_division :
    (∀ element ∈ [literal 1, literal 0, operator "/", operator "+"], element.IsWritten) ∧
    ofPostfix [literal 1, literal 0, operator "/", operator "+"] = .error (.stackUnderflow "+" 2 1) ∧
    ∃ raised, evaluate .radians [literal 1, literal 0, operator "/", operator "+"] = .error raised ∧
      (raised.kind = .stackUnderflow ∨ raised.IsArithmetic ∧
        FailsWhereTreesGrow .radians [literal 1, literal 0, operator "/", operator "+"] raised) := by
  have hw : ∀ element ∈ [literal 1, literal 0, operator "/", operator "+"], element.IsWritten := by
    simp [IsWritten]
  have htree : ofPostfix [literal 1, literal 0, operator "/", operator "+"] =
      .error (.stackUnderflow "+" 2 1) := rfl
  exact ⟨hw, htree, (stack_value_is_tree_value .standard .radians _ hw).2.2 _ htree⟩

/-- The value of zero with so many percent signs is found on the stack, but the tree is too deep for nested calls. -/
theorem stack_value_of_deep_tree : ∃ value tree,
    evaluate .radians (literal 0 :: List.replicate 999 (operator "%")) = .ok value ∧
    ofPostfix (literal 0 :: List.replicate 999 (operator "%")) = .ok tree ∧
    CallStack.standard.evaluate .radians tree = .error .recursionTooDeep := by
  have htree := ofPostfix_toPostfix ((Tree.number 0).repeated .percent 999)
  rw [toPostfix_repeated] at htree
  have hzero : (Tree.number 0).evaluate .radians = .ok 0 := rfl
  obtain ⟨value, hvalue⟩ := exists_evaluate_repeated hzero .percent 999
  have hdeep : ¬CallStack.standard.HoldsValue ((Tree.number 0).repeated .percent 999) := by
    rw [CallStack.HoldsValue, depth_repeated fun operand => rfl]
    decide
  refine ⟨value, _, (evaluate_of_ofPostfix .radians htree).trans hvalue, htree, ?_⟩
  rw [CallStack.evaluate_of_value hvalue, if_neg hdeep]

end Postfix

end SciCalc
