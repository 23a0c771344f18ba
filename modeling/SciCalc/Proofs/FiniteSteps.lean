import SciCalc.Proofs.ConsistentValues
import SciCalc.Proofs.FiniteOperands

/-!
# Finite steps

Only the value of a whole expression has to be finite. It rests on finite values all the way down, unless a quotient
has an infinite divisor, or a power or a function of the numeric library has a finite value for an operand that is not
finite.
-/

namespace SciCalc

namespace Tree

/-- What the operator or function at the root is applied to. -/
def operands : Tree → List Tree
  | number _ => []
  | unary _ operand => [operand]
  | binary _ left right => [left, right]
  | apply _ argument => [argument]
  | power base exponent => [base, exponent]

def isApplication : Tree → Bool
  | number _ => false
  | unary .. | binary .. | apply .. | power .. => true

/-- All that is applied in the tree, with its operands, in the order in which it is evaluated. -/
def applications : Tree → List Tree
  | number _ => []
  | unary op operand => operand.applications ++ [unary op operand]
  | binary op left right => left.applications ++ right.applications ++ [binary op left right]
  | apply f argument => argument.applications ++ [apply f argument]
  | power base exponent => base.applications ++ exponent.applications ++ [power base exponent]

/-- The value is finite, but that of an operand is not, and this operand is no mere number. -/
def Absorbs (unit : AngleUnit) (tree : Tree) : Prop :=
  (∃ x, tree.evaluate unit = .ok x ∧ x.isFinite = true) ∧
  ∃ operand ∈ tree.operands, operand.isApplication = true ∧ ∃ y, operand.evaluate unit = .ok y ∧ y.isFinite = false

/-- How a value can be finite without all operands being so. -/
inductive AbsorbingForm (unit : AngleUnit) : Tree → Prop
  /-- A finite value divided by an infinity. -/
  | quotient {left right : Tree} {x y : Float} (hleft : left.evaluate unit = .ok x)
    (hright : right.evaluate unit = .ok y) (hx : x.isFinite = true) (hy : y.isInf = true)
    (hzero : (x / y == 0) = true) : AbsorbingForm unit (binary .div left right)
  | raised {base exponent : Tree} {x y : Float} (hbase : base.evaluate unit = .ok x)
    (hexponent : exponent.evaluate unit = .ok y) (hoperands : (x.isFinite && y.isFinite) = false)
    (hvalue : (x.pow y).isFinite = true) : AbsorbingForm unit (binary .pow base exponent)
  | power {base exponent : Tree} {x y : Float} (hbase : base.evaluate unit = .ok x)
    (hexponent : exponent.evaluate unit = .ok y) (hoperands : (x.isFinite && y.isFinite) = false)
    (hvalue : (x.pow y).isFinite = true) : AbsorbingForm unit (power base exponent)
  /-- A function whose values are those of the numeric library. -/
  | apply {f : UnaryFunction} {argument : Tree} {x y : Float} (hf : f ≠ .sqrt ∧ f ≠ .abs)
    (hargument : argument.evaluate unit = .ok x) (hx : x.isFinite = false) (hvalue : f.apply unit x = .ok y)
    (hy : y.isFinite = true) : AbsorbingForm unit (apply f argument)

theorem induction_operands {motive : Tree → Prop}
    (node : ∀ tree, (∀ operand ∈ tree.operands, motive operand) → motive tree) (tree : Tree) : motive tree := by
  induction tree with
  | number x => exact node _ (List.forall_mem_nil _)
  | unary op operand ih => exact node _ (List.forall_mem_singleton.mpr ih)
  | binary op left right ihl ihr => exact node _ (List.forall_mem_cons.mpr ⟨ihl, List.forall_mem_singleton.mpr ihr⟩)
  | apply f argument ih => exact node _ (List.forall_mem_singleton.mpr ih)
  | power base exponent ihb ihe => exact node _ (List.forall_mem_cons.mpr ⟨ihb, List.forall_mem_singleton.mpr ihe⟩)

theorem mem_applications {tree part : Tree} : part ∈ tree.applications ↔
    (part = tree ∧ tree.isApplication = true) ∨ ∃ operand ∈ tree.operands, part ∈ operand.applications := by
  cases tree <;> simp [applications, operands, isApplication, or_comm, or_assoc]

theorem self_mem_applications {tree : Tree} (h : tree.isApplication = true) : tree ∈ tree.applications :=
  mem_applications.mpr (Or.inl ⟨rfl, h⟩)

theorem isApplication_of_mem {tree part : Tree} (h : part ∈ tree.applications) : tree.isApplication = true := by
  cases tree with
  | number x => contradiction
  | _ => rfl

theorem isApplication_of_operand {tree operand : Tree} (h : operand ∈ tree.operands) : tree.isApplication = true := by
  cases tree with
  | number x => contradiction
  | _ => rfl

theorem mem_applications_of_operand {tree part operand : Tree} (hpart : part ∈ tree.applications)
    (hoperand : operand ∈ part.operands) (happlied : operand.isApplication = true) :
    operand ∈ tree.applications := by
  induction tree using induction_operands with
  | node tree ih =>
    rcases mem_applications.mp hpart with ⟨rfl, -⟩ | ⟨above, habove, hpart⟩
    · exact mem_applications.mpr (Or.inr ⟨operand, hoperand, self_mem_applications happlied⟩)
    · exact mem_applications.mpr (Or.inr ⟨above, habove, ih above habove hpart⟩)

/-- A tree that has a value has operands that have values. -/
theorem exists_value_of_operand {unit : AngleUnit} {tree operand : Tree} {x : Float} (h : tree.evaluate unit = .ok x)
    (hoperand : operand ∈ tree.operands) : ∃ y, operand.evaluate unit = .ok y := by
  cases tree with
  | number x => contradiction
  | unary op inner | apply f inner =>
    obtain rfl := List.mem_singleton.mp hoperand
    obtain ⟨y, hy, -⟩ := bind_eq_ok h
    exact ⟨y, hy⟩
  | binary op left right | power left right =>
    obtain ⟨y, hy, h⟩ := bind_eq_ok h
    obtain ⟨z, hz, -⟩ := bind_eq_ok h
    simp only [operands, List.mem_cons, List.not_mem_nil, or_false] at hoperand
    rcases hoperand with rfl | rfl
    · exact ⟨y, hy⟩
    · exact ⟨z, hz⟩

/-- Whatever is applied in the tree has a finite value. -/
def AllFinite (unit : AngleUnit) (tree : Tree) : Prop :=
  ∀ part ∈ tree.applications, ∀ y, part.evaluate unit = .ok y → y.isFinite = true

/-- Where nothing absorbs, a finite value has finite operands, and so on down the tree. -/
theorem allFinite_of_not_absorbs {unit : AngleUnit} {tree : Tree} {x : Float} (h : tree.evaluate unit = .ok x)
    (hx : x.isFinite = true) (habsorbs : ∀ part ∈ tree.applications, ¬part.Absorbs unit) : tree.AllFinite unit := by
  induction tree using induction_operands generalizing x with
  | node tree ih =>
    intro part hpart y hy
    rcases mem_applications.mp hpart with ⟨rfl, -⟩ | ⟨operand, hoperand, hinner⟩
    · cases hy.symm.trans h
      exact hx
    · have htree := self_mem_applications (isApplication_of_operand hoperand)
      have hbelow : ∀ part ∈ operand.applications, ¬part.Absorbs unit :=
        fun part hpart => habsorbs part (mem_applications.mpr (Or.inr ⟨operand, hoperand, hpart⟩))
      obtain ⟨z, hz⟩ := exists_value_of_operand h hoperand
      cases hfinite : z.isFinite with
      | true => exact ih operand hoperand hz hfinite hbelow part hinner y hy
      | false =>
        exact absurd ⟨⟨x, h, hx⟩, operand, hoperand, isApplication_of_mem hinner, z, hz, hfinite⟩ (habsorbs tree htree)

theorem allFinite_iff {unit : AngleUnit} {tree : Tree} {x : Float} (h : tree.evaluate unit = .ok x)
    (hx : x.isFinite = true) : tree.AllFinite unit ↔ ∀ part ∈ tree.applications, ¬part.Absorbs unit := by
  refine ⟨fun hfinite part hpart habsorbs => ?_, allFinite_of_not_absorbs h hx⟩
  obtain ⟨-, operand, hoperand, happlied, y, hy, hnot⟩ := habsorbs
  have htrue := hfinite operand (mem_applications_of_operand hpart hoperand happlied) y hy
  rw [htrue] at hnot
  contradiction

/-- One operand is not finite. -/
theorem not_both_finite {unit : AngleUnit} {left right operand : Tree} {x y z : Float}
    (hleft : left.evaluate unit = .ok x) (hright : right.evaluate unit = .ok y)
    (hoperand : operand = left ∨ operand = right) (hz : operand.evaluate unit = .ok z) (hnot : z.isFinite = false) :
    (x.isFinite && y.isFinite) = false := by
  rcases hoperand with rfl | rfl
  · cases hz.symm.trans hleft
    rw [hnot, Bool.false_and]
  · cases hz.symm.trans hright
    rw [hnot, Bool.and_false]

theorem absorbingForm_of_absorbs {unit : AngleUnit} {tree : Tree} (h : tree.Absorbs unit) :
    tree.AbsorbingForm unit := by
  obtain ⟨⟨x, hx, hfinite⟩, operand, hoperand, -, z, hz, hnot⟩ := h
  cases tree with
  | number value => contradiction
  | unary op inner =>
    obtain rfl := List.mem_singleton.mp hoperand
    rw [evaluate, hz] at hx
    cases hx
    rw [UnaryOperator.isFinite_operand hfinite] at hnot
    contradiction
  | binary op left right =>
    have hoperand : operand = left ∨ operand = right := by simpa [operands] using hoperand
    obtain ⟨a, ha, hx⟩ := bind_eq_ok hx
    obtain ⟨b, hb, hx⟩ := bind_eq_ok hx
    have hnot := not_both_finite ha hb hoperand hz hnot
    by_cases hop : op = .pow
    · subst hop
      cases hx
      exact .raised ha hb hnot hfinite
    · -- the left operand is finite, and the right one is so too but in a quotient
      obtain ⟨hafinite, hbfinite⟩ := BinaryOperator.isFinite_operands hop hx hfinite
      rw [hafinite, Bool.true_and] at hnot
      rcases hbfinite with hbfinite | ⟨rfl, hinf⟩
      · rw [hbfinite] at hnot
        contradiction
      · exact .quotient ha hb hafinite hinf (Decimal.quotient_of_isInf hafinite hinf).2.2
  | apply f argument =>
    obtain rfl := List.mem_singleton.mp hoperand
    rw [evaluate, hz] at hx
    by_cases hf : f = .sqrt ∨ f = .abs
    · rw [UnaryFunction.isFinite_argument hf hx hfinite] at hnot
      contradiction
    · exact .apply (not_or.mp hf) hz hnot hx hfinite
  | power base exponent =>
    have hoperand : operand = base ∨ operand = exponent := by simpa [operands] using hoperand
    obtain ⟨a, ha, hx⟩ := bind_eq_ok hx
    obtain ⟨b, hb, hx⟩ := bind_eq_ok hx
    cases hx
    exact .power ha hb (not_both_finite ha hb hoperand hz hnot) hfinite

/-- A finite value divided by what came to an infinity. -/
theorem absorbs_quotient {unit : AngleUnit} {left right : Tree} {x y : Float} (hleft : left.evaluate unit = .ok x)
    (hright : right.evaluate unit = .ok y) (hx : x.isFinite = true) (hy : y.isInf = true)
    (happlied : right.isApplication = true) : (binary .div left right).Absorbs unit := by
  obtain ⟨hdefined, hfinite, -⟩ := Decimal.quotient_of_isInf hx hy
  have hnot : y.isFinite = false := by
    cases hfinite : y.isFinite with
    | false => rfl
    | true =>
      rw [Decimal.isInf_of_isFinite hfinite] at hy
      contradiction
  refine ⟨⟨x / y, ?_, hfinite⟩, right, by simp [operands], happlied, y, hright, hnot⟩
  rw [evaluate, hleft, ok_bind, hright, ok_bind, BinaryOperator.apply, hdefined, if_neg Bool.false_ne_true]

theorem evaluateAll_numbers (unit : AngleUnit) (values : List Float) :
    evaluateAll unit (values.map number) = .ok values := by
  induction values with
  | nil => rfl
  | cons x values ih =>
    rw [List.map_cons, evaluateAll_cons, ih]
    rfl

end Tree

namespace Postfix

/-- An operator or a call, whose value is computed. -/
def isApplied : Postfix → Bool
  | operator _ | call .. => true
  | literal _ | mark _ => false

/-- The values that operators and functions give in a run, in their order. -/
def results (unit : AngleUnit) (stack : List Float) : List Postfix → List Float
  | [] => []
  | element :: rest =>
    match step unit stack element with
    | .error _ => []
    | .ok next => (if element.isApplied then next.head?.toList else []) ++ results unit next rest

section

variable {unit : AngleUnit} {stack rest middle : List Float}

theorem results_append {elements : List Postfix} (h : run unit stack elements = .ok middle) (behind : List Postfix) :
    results unit stack (elements ++ behind) = results unit stack elements ++ results unit middle behind := by
  unfold run at h
  induction elements generalizing stack with
  | nil =>
    cases h
    rfl
  | cons element elements ih =>
    rw [List.foldlM_cons] at h
    obtain ⟨next, hstep, h⟩ := bind_eq_ok h
    rw [List.cons_append, results, results, hstep]
    simp only [ih h, List.append_assoc]

/-- An operator or a call behind the elements of its operands. -/
theorem results_last {elements : List Postfix} {element : Postfix} {value : Float} (happlied : element.isApplied = true)
    (h : run unit stack elements = .ok middle) (hstep : step unit middle element = .ok (value :: rest)) :
    results unit stack (elements ++ [element]) = results unit stack elements ++ [value] := by
  rw [results_append h, results, hstep]
  simp only [happlied, if_true, results]
  rfl

theorem run_both {left right : List Postfix} {below : List Float} (hleft : run unit stack left = .ok middle)
    (hright : run unit middle right = .ok below) : run unit stack (left ++ right) = .ok below := by
  unfold run at hleft hright ⊢
  rw [foldlM_append_ok hleft, hright]

/-- The listing of a tree leaves the value of the tree on any stack. -/
theorem run_toPostfix {tree : Tree} {x : Float} (h : tree.evaluate unit = .ok x) (stack : List Float) :
    run unit stack tree.toPostfix = .ok (x :: stack) := by
  have hrun := run_evaluateAll unit (Tree.foldlM_grow_toPostfix tree (stack.map .number))
  rwa [Tree.evaluateAll_cons, Tree.evaluateAll_numbers, ok_bind, ok_bind, h, ok_bind] at hrun

/-- The values that are computed are those of what is applied in the tree. -/
theorem results_toPostfix {tree : Tree} {x : Float} (h : tree.evaluate unit = .ok x) (stack : List Float) :
    (results unit stack tree.toPostfix).map Except.ok = tree.applications.map (Tree.evaluate unit) := by
  -- the right operand of two runs on the value of the left one, so the stack is any
  induction tree generalizing x stack with
  | number value => rfl
  | unary op operand ih =>
    have hvalue := h
    obtain ⟨y, hy, h⟩ := bind_eq_ok h
    cases h
    rw [Tree.toPostfix, results_last rfl (run_toPostfix hy stack) (step_unary unit op y stack), Tree.applications,
      List.map_append, List.map_append, ih hy stack, List.map_singleton, List.map_singleton, hvalue]
  | binary op left right ihl ihr =>
    have hvalue := h
    obtain ⟨y, hy, h⟩ := bind_eq_ok h
    obtain ⟨z, hz, h⟩ := bind_eq_ok h
    have hleft := run_toPostfix hy stack
    have hstep : step unit (z :: y :: stack) (.operator (Operator.binary op).symbol) = .ok (x :: stack) := by
      rw [step_binary, h, ok_bind]
    rw [Tree.toPostfix, results_last rfl (run_both hleft (run_toPostfix hz _)) hstep, results_append hleft,
      Tree.applications]
    simp only [List.map_append, ihl hy stack, ihr hz _, List.map_singleton, hvalue]
  | apply f argument ih =>
    have hvalue := h
    obtain ⟨y, hy, h⟩ := bind_eq_ok h
    have hstep : step unit (y :: stack) (.call f.name (some 1)) = .ok (x :: stack) := by
      have hcall := step_apply unit f y stack
      rwa [h, ok_bind] at hcall
    rw [Tree.toPostfix, results_last rfl (run_toPostfix hy stack) hstep, Tree.applications]
    simp only [List.map_append, ih hy stack, List.map_singleton, hvalue]
  | power base exponent ihb ihe =>
    have hvalue := h
    obtain ⟨y, hy, h⟩ := bind_eq_ok h
    obtain ⟨z, hz, h⟩ := bind_eq_ok h
    have hbase := run_toPostfix hy stack
    have hstep : step unit (z :: y :: stack) (.call Function.power.name (some 2)) = .ok (x :: stack) := by
      rw [step_power, h, ok_bind]
    rw [Tree.toPostfix, results_last rfl (run_both hbase (run_toPostfix hz _)) hstep, results_append hbase,
      Tree.applications]
    simp only [List.map_append, ihb hy stack, ihe hz _, List.map_singleton, hvalue]

theorem mem_results_iff {tree : Tree} {x : Float} (h : tree.evaluate unit = .ok x) {y : Float} :
    y ∈ results unit [] tree.toPostfix ↔ ∃ part ∈ tree.applications, part.evaluate unit = .ok y := by
  have hresults := results_toPostfix h []
  constructor
  · intro hy
    have hmem : (Except.ok y : Except Fault Float) ∈ (results unit [] tree.toPostfix).map Except.ok :=
      List.mem_map_of_mem hy
    rw [hresults] at hmem
    exact List.mem_map.mp hmem
  · rintro ⟨part, hpart, hy⟩
    have hmem : Except.ok y ∈ tree.applications.map (Tree.evaluate unit) := hy ▸ List.mem_map_of_mem hpart
    rw [← hresults] at hmem
    obtain ⟨y', hy', heq⟩ := List.mem_map.mp hmem
    cases heq
    exact hy'

theorem forall_results_iff {tree : Tree} {x : Float} (h : tree.evaluate unit = .ok x) :
    (∀ y ∈ results unit [] tree.toPostfix, y.isFinite = true) ↔ tree.AllFinite unit := by
  constructor
  · intro hfinite part hpart y hy
    exact hfinite y ((mem_results_iff h).mpr ⟨part, hpart, hy⟩)
  · intro hfinite y hy
    obtain ⟨part, hpart, hvalue⟩ := (mem_results_iff h).mp hy
    exact hfinite part hpart y hvalue

end

end Postfix

namespace Expression

open Postfix

/-- The evaluation of a text ends with a fault or with a finite value. Then what every operator and function gave on the
way was finite as well, exactly if nothing in the tree of the text absorbs a value that is not; and that can only be a
quotient by an infinity, a power, or a function of the numeric library. -/
theorem finite_steps_iff_nothing_absorbs (text : String) (unit : AngleUnit) :
    (∃ fault, evaluate text unit = .error (.fault fault)) ∨
    ∃ value elements tree, evaluate text unit = .ok value ∧ value.isFinite = true ∧ compile text = .ok elements ∧
      Tree.ofPostfix elements = .ok tree ∧
      ((∀ y ∈ results unit [] elements, y.isFinite = true) ↔ ∀ part ∈ tree.applications, ¬part.Absorbs unit) ∧
      ∀ part ∈ tree.applications, part.Absorbs unit → part.AbsorbingForm unit := by
  rcases compile_cases text with ⟨elements, hcompile, helements⟩ | ⟨fault, -, hcompile⟩
  · rcases finiteValue_cases hcompile unit with ⟨value, hvalue, hevaluate⟩ | ⟨fault, -, -, hevaluate⟩
    · obtain ⟨hstack, hfinite⟩ := evaluate_of_finiteValue hvalue
      obtain ⟨tree, htree, htreeValue⟩ :=
        exists_tree_of_evaluate (fun element helement => (helements element helement).isWritten) hstack
      refine Or.inr ⟨value, elements, tree, hevaluate, hfinite, hcompile, htree, ?_, fun part _ habsorbs =>
        Tree.absorbingForm_of_absorbs habsorbs⟩
      rw [← Tree.toPostfix_of_ofPostfix htree, forall_results_iff htreeValue, Tree.allFinite_iff htreeValue hfinite]
    · exact Or.inl ⟨fault, hevaluate⟩
  · exact Or.inl ⟨fault, by rw [evaluate, hcompile, error_bind]⟩

section

open Decimal

/-- A one and 155 zeros behind it. The square of this number is infinite. -/
def squaredDigits : List Char := '1' :: List.replicate 155 '0'

/-- One divided by the square of this number. -/
def squaredQuotient : String :=
  String.ofList ('(' :: '1' :: '/' :: ('(' :: (squaredDigits ++ '*' :: (squaredDigits ++ [')']))) ++ [')'])

def squaredTree : Tree :=
  let great := Tree.number (Digits.toFloat false (.ofNumeral squaredDigits))
  .binary .div (.number (Digits.toFloat false (.ofNumeral ['1']))) (.binary .mul great great)

theorem compile_squaredQuotient : compile squaredQuotient = .ok squaredTree.toPostfix := by
  have hdigits : ∀ c ∈ squaredDigits, c.isDigit := List.all_eq_true.mp (by decide +kernel)
  have hgreat : Token.IsNumeral squaredDigits := .whole squaredDigits hdigits (List.cons_ne_nil _ _)
  have hone : Token.IsNumeral ['1'] := Token.isNumeral_digit rfl
  have hproduct := (Infix.isOperandText_number hgreat).binary (Infix.isOperandText_number hgreat) .mul
  have hquotient := (Infix.isOperandText_number hone).binary hproduct .div
  exact compile_of_isOperandText (by rwa [squaredQuotient, String.toList_ofList])

theorem absorbs_squaredTree : squaredTree.Absorbs .radians := by
  have hone : (Digits.toFloat false (.ofNumeral ['1'])).isFinite = true := by decide +kernel
  have hgreat : (Digits.toFloat false (.ofNumeral squaredDigits) *
      Digits.toFloat false (.ofNumeral squaredDigits)).isInf = true := by decide +kernel
  exact Tree.absorbs_quotient rfl rfl hone hgreat rfl

theorem evaluate_squaredQuotient : ∃ value, evaluate squaredQuotient .radians = .ok value := by
  obtain ⟨⟨value, hvalue, hfinite⟩, -⟩ := absorbs_squaredTree
  refine ⟨value, evaluate_of_compile compile_squaredQuotient ?_⟩
  rw [finiteValue_of_ofPostfix .radians (Tree.ofPostfix_toPostfix squaredTree), hvalue, ok_bind, if_pos hfinite]

/-- The quotient has a value, but the square in it is infinite. -/
theorem evaluate_quotient_of_overflow : ∃ elements value,
    compile squaredQuotient = .ok elements ∧ evaluate squaredQuotient .radians = .ok value ∧
    ∃ y ∈ results .radians [] elements, y.isFinite = false := by
  obtain ⟨value, hvalue⟩ := evaluate_squaredQuotient
  obtain ⟨⟨x, hx, -⟩, product, hproduct, happlied, y, hy, hnot⟩ := absorbs_squaredTree
  have hmem : product ∈ squaredTree.applications :=
    Tree.mem_applications_of_operand (Tree.self_mem_applications rfl) hproduct happlied
  exact ⟨_, value, compile_squaredQuotient, hvalue, y, (mem_results_iff hx).mpr ⟨product, hmem, hy⟩, hnot⟩

/-- Of the values computed for the quotient one is not finite, and the quotient absorbs it. -/
theorem finite_steps_iff_nothing_absorbs_of_quotient : ∃ elements tree,
    compile squaredQuotient = .ok elements ∧ Tree.ofPostfix elements = .ok tree ∧
    (¬∀ y ∈ results .radians [] elements, y.isFinite = true) ∧ tree.AbsorbingForm .radians := by
  obtain ⟨found, hfound⟩ := evaluate_squaredQuotient
  rcases finite_steps_iff_nothing_absorbs squaredQuotient .radians with
    ⟨fault, hfault⟩ | ⟨value, elements, tree, -, -, hcompile, htree, hiff, hforms⟩
  · cases hfault.symm.trans hfound
  · obtain rfl : elements = squaredTree.toPostfix := Except.ok.inj (hcompile.symm.trans compile_squaredQuotient)
    obtain rfl : tree = squaredTree := Except.ok.inj (htree.symm.trans (Tree.ofPostfix_toPostfix squaredTree))
    have hmem : squaredTree ∈ squaredTree.applications := Tree.self_mem_applications rfl
    exact ⟨_, _, hcompile, htree, fun hfinite => hiff.mp hfinite _ hmem absorbs_squaredTree,
      hforms _ hmem absorbs_squaredTree⟩

end

end Expression

end SciCalc
