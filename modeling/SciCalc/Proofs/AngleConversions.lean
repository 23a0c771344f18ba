import SciCalc.Expression
import SciCalc.Proofs.StackAndTree

/-!
# Angle conversions

An expression in degrees is one in radians that converts the argument of every sine, cosine and tangent and the value
of every inverse of them. Nothing else in an expression depends on the unit.
-/

namespace SciCalc

namespace Postfix

/-- A function of an angle. -/
def takesAngle : Postfix → Bool
  | call name _ => ["sin", "cos", "tan"].contains name
  | literal _ | operator _ | mark _ => false

/-- A function whose value is an angle. -/
def givesAngle : Postfix → Bool
  | call name _ => ["asin", "acos", "atan"].contains name
  | literal _ | operator _ | mark _ => false

/-- Turns degrees on top of the stack into radians. -/
def degreesToRadians : List Postfix := [literal AngleUnit.pi, literal 180, operator "/", operator "*"]

/-- Turns radians on top of the stack into degrees. -/
def radiansToDegrees : List Postfix := [literal 180, literal AngleUnit.pi, operator "/", operator "*"]

/-- The element with a conversion of the angle that it takes or gives in degrees. -/
def converted (element : Postfix) : List Postfix :=
  if element.takesAngle then degreesToRadians ++ [element]
  else if element.givesAngle then element :: radiansToDegrees
  else [element]

end Postfix

namespace Tree

/-- A function in degrees, as a tree in radians. -/
def applyConverted (f : UnaryFunction) (argument : Tree) : Tree :=
  match f with
  | .sin | .cos | .tan =>
    apply f (binary .mul argument (binary .div (number AngleUnit.pi) (number 180)))
  | .asin | .acos | .atan =>
    binary .mul (apply f argument) (binary .div (number 180) (number AngleUnit.pi))
  | .sqrt | .log | .ln | .abs => apply f argument

/-- The tree with all its angles converted. -/
def inRadians : Tree → Tree
  | number x => number x
  | unary op operand => unary op operand.inRadians
  | binary op left right => binary op left.inRadians right.inRadians
  | apply f argument => applyConverted f argument.inRadians
  | power base exponent => power base.inRadians exponent.inRadians

theorem evaluate_quotient (unit : AngleUnit) {x y : Float} (hy : (y == 0) = false) :
    (binary .div (number x) (number y)).evaluate unit = .ok (x / y) := by
  simp only [evaluate, ok_bind, BinaryOperator.apply, hy, Bool.false_eq_true, if_false]

/-- The factors between the units are quotients, and neither of their divisors is zero. -/
theorem evaluate_factors (unit : AngleUnit) :
    (binary .div (number AngleUnit.pi) (number 180)).evaluate unit = .ok (AngleUnit.pi / 180) ∧
    (binary .div (number 180) (number AngleUnit.pi)).evaluate unit = .ok (180 / AngleUnit.pi) := by
  have hstraight : ((180 : Float) == 0) = false := by decide +kernel
  have hpi : (AngleUnit.pi == 0) = false := by decide +kernel
  exact ⟨evaluate_quotient unit hstraight, evaluate_quotient unit hpi⟩

theorem evaluate_scaled {unit : AngleUnit} {factor : Tree} {k : Float} (h : factor.evaluate unit = .ok k)
    (tree : Tree) :
    (binary .mul tree factor).evaluate unit = tree.evaluate unit >>= fun x => .ok (x * k) := by
  rw [evaluate, h]
  rfl

theorem evaluate_applyConverted (f : UnaryFunction) (argument : Tree) :
    (applyConverted f argument).evaluate .radians =
      argument.evaluate .radians >>= fun x => f.apply .degrees x := by
  obtain ⟨hforward, hback⟩ := evaluate_factors .radians
  cases f with
  | sin | cos | tan =>
    have hargument := evaluate_scaled hforward argument
    rw [applyConverted, evaluate, hargument, bind_assoc]
    rfl
  | asin | acos | atan =>
    rw [applyConverted, evaluate_scaled hback, evaluate, bind_assoc]
    rfl
  | sqrt | log | ln | abs => rfl

/-- The conversions stand for the unit. -/
theorem evaluate_inRadians (tree : Tree) : tree.inRadians.evaluate .radians = tree.evaluate .degrees := by
  induction tree with
  | number x => rfl
  | unary op operand ih => simp only [inRadians, evaluate, ih]
  | binary op left right ihl ihr => simp only [inRadians, evaluate, ihl, ihr]
  | apply f argument ih => simp only [inRadians, evaluate_applyConverted, evaluate, ih]
  | power base exponent ihb ihe => simp only [inRadians, evaluate, ihb, ihe]

theorem toPostfix_applyConverted (f : UnaryFunction) (argument : Tree) :
    (applyConverted f argument).toPostfix =
      argument.toPostfix ++ Postfix.converted (.call f.name (some 1)) := by
  cases f with
  | sqrt | log | ln | abs => rfl
  | sin | cos | tan | asin | acos | atan =>
    simp only [applyConverted, toPostfix, List.append_assoc]
    rfl

/-- The listing of the tree with its angles converted has the conversions beside the functions. -/
theorem toPostfix_inRadians (tree : Tree) :
    tree.inRadians.toPostfix = tree.toPostfix.flatMap Postfix.converted := by
  have hop (op : Operator) : [Postfix.operator op.symbol].flatMap Postfix.converted = [.operator op.symbol] := rfl
  have hpower : [Postfix.call Function.power.name (some 2)].flatMap Postfix.converted =
      [.call Function.power.name (some 2)] := rfl
  induction tree with
  | number x => rfl
  | unary op operand ih => simp only [inRadians, toPostfix, List.flatMap_append, ih, hop]
  | binary op left right ihl ihr => simp only [inRadians, toPostfix, List.flatMap_append, ihl, ihr, hop]
  | apply f argument ih =>
    simp only [inRadians, toPostfix_applyConverted, toPostfix, List.flatMap_append, ih, List.flatMap_singleton]
  | power base exponent ihb ihe =>
    simp only [inRadians, toPostfix, List.flatMap_append, ihb, ihe, hpower]

end Tree

namespace UnaryFunction

/-- A function that neither takes nor gives an angle has the same value in every unit. -/
theorem apply_unit_irrelevant {f : UnaryFunction} (htakes : ["sin", "cos", "tan"].contains f.name = false)
    (hgives : ["asin", "acos", "atan"].contains f.name = false) (unit unit' : AngleUnit) (x : Float) :
    f.apply unit x = f.apply unit' x := by
  cases f with
  | sin | cos | tan => exact absurd htakes (by decide)
  | asin | acos | atan => exact absurd hgives (by decide)
  | sqrt | log | ln | abs => rfl

end UnaryFunction

namespace Postfix

/-- The element neither takes nor gives an angle. -/
def IsFreeOfAngles (element : Postfix) : Prop := element.takesAngle = false ∧ element.givesAngle = false

theorem step_of_isFreeOfAngles {element : Postfix} (h : element.IsFreeOfAngles) (unit unit' : AngleUnit)
    (stack : List Float) : step unit stack element = step unit' stack element := by
  cases element with
  | literal x => rfl
  | operator symbol => rfl
  | mark name => rfl
  | call name argc =>
    simp only [step, applyFunction]
    cases hname : Function.ofName? name with
    | none => rfl
    | some f =>
      obtain rfl := Function.ofName?_eq_some.mp hname
      cases f with
      | unary f =>
        cases stack with
        | nil => rfl
        | cons x rest => simp only [UnaryFunction.apply_unit_irrelevant h.1 h.2 unit unit' x]
      | power => rcases stack with _ | ⟨x, _ | ⟨y, rest⟩⟩ <;> rfl

theorem run_of_isFreeOfAngles {elements : List Postfix} (h : ∀ element ∈ elements, element.IsFreeOfAngles)
    (unit unit' : AngleUnit) (stack : List Float) : run unit stack elements = run unit' stack elements := by
  unfold run
  induction elements generalizing stack with
  | nil => rfl
  | cons element rest ih =>
    obtain ⟨helement, hrest⟩ := List.forall_mem_cons.mp h
    rw [List.foldlM_cons, List.foldlM_cons, step_of_isFreeOfAngles helement unit unit' stack]
    exact bind_congr fun next => ih hrest next

/-- Without functions of angles the value is the same in every unit, whether there is a tree or not. -/
theorem evaluate_of_isFreeOfAngles {elements : List Postfix} (h : ∀ element ∈ elements, element.IsFreeOfAngles)
    (unit unit' : AngleUnit) : evaluate unit elements = evaluate unit' elements := by
  rw [evaluate, run_of_isFreeOfAngles h unit unit' [], evaluate]

theorem flatMap_converted_of_isFreeOfAngles {elements : List Postfix}
    (h : ∀ element ∈ elements, element.IsFreeOfAngles) : elements.flatMap converted = elements := by
  induction elements with
  | nil => rfl
  | cons element rest ih =>
    obtain ⟨⟨htakes, hgives⟩, hrest⟩ := List.forall_mem_cons.mp h
    have helement : converted element = [element] := by
      rw [converted, htakes, hgives]
      rfl
    rw [List.flatMap_cons, helement, ih hrest, List.singleton_append]

theorem evaluate_degrees_of_ofPostfix {elements : List Postfix} {tree : Tree}
    (h : Tree.ofPostfix elements = .ok tree) :
    Tree.ofPostfix (elements.flatMap converted) = .ok tree.inRadians ∧
    evaluate .degrees elements = evaluate .radians (elements.flatMap converted) := by
  have hconverted : Tree.ofPostfix (elements.flatMap converted) = .ok tree.inRadians := by
    rw [← Tree.toPostfix_of_ofPostfix h, ← Tree.toPostfix_inRadians]
    exact Tree.ofPostfix_toPostfix tree.inRadians
  refine ⟨hconverted, ?_⟩
  calc
    evaluate .degrees elements = tree.evaluate .degrees := evaluate_of_ofPostfix .degrees h
    _ = tree.inRadians.evaluate .radians := tree.evaluate_inRadians.symm
    _ = evaluate .radians (elements.flatMap converted) := (evaluate_of_ofPostfix .radians hconverted).symm

/-- A value in degrees is the value in radians of the expression with its angles converted, faults included, and
where no function is one of angles both units come to the same. -/
theorem value_in_degrees (elements : List Postfix) :
    (∀ tree, Tree.ofPostfix elements = .ok tree →
      Tree.ofPostfix (elements.flatMap converted) = .ok tree.inRadians ∧
      evaluate .degrees elements = evaluate .radians (elements.flatMap converted) ∧
      finiteValue .degrees elements = finiteValue .radians (elements.flatMap converted)) ∧
    ((∀ element ∈ elements, element.IsFreeOfAngles) →
      elements.flatMap converted = elements ∧
      evaluate .degrees elements = evaluate .radians elements ∧
      finiteValue .degrees elements = finiteValue .radians elements ∧
      ∀ text, Expression.compile text = .ok elements →
        Expression.evaluate text .degrees = Expression.evaluate text .radians) := by
  constructor
  · intro tree htree
    obtain ⟨hconverted, hvalue⟩ := evaluate_degrees_of_ofPostfix htree
    refine ⟨hconverted, hvalue, ?_⟩
    rw [finiteValue, hvalue, finiteValue]
  · intro hfree
    have hvalue := evaluate_of_isFreeOfAngles hfree .degrees .radians
    have hfinite : finiteValue .degrees elements = finiteValue .radians elements := by
      rw [finiteValue, hvalue, finiteValue]
    refine ⟨flatMap_converted_of_isFreeOfAngles hfree, hvalue, hfinite, ?_⟩
    intro text hcompile
    rw [Expression.evaluate, hcompile, ok_bind, hfinite, Expression.evaluate, hcompile, ok_bind]

/-- The sine of an angle in degrees and its arcsine in degrees, and a root, which has no angles. -/
theorem value_in_degrees_of_arcsine :
    Tree.ofPostfix [literal 30, call "sin" (some 1), call "asin" (some 1)] =
      .ok (.apply .asin (.apply .sin (.number 30))) ∧
    evaluate .degrees [literal 30, call "sin" (some 1), call "asin" (some 1)] =
      evaluate .radians [literal 30, literal AngleUnit.pi, literal 180, operator "/", operator "*",
        call "sin" (some 1), call "asin" (some 1), literal 180, literal AngleUnit.pi, operator "/", operator "*"] ∧
    (∀ element ∈ [literal 2, call "sqrt" (some 1)], element.IsFreeOfAngles) ∧
    evaluate .degrees [literal 2, call "sqrt" (some 1)] = evaluate .radians [literal 2, call "sqrt" (some 1)] := by
  have htree : Tree.ofPostfix [literal 30, call "sin" (some 1), call "asin" (some 1)] =
      .ok (.apply .asin (.apply .sin (.number 30))) := rfl
  have hfree : ∀ element ∈ [literal 2, call "sqrt" (some 1)], element.IsFreeOfAngles := by
    simp only [List.forall_mem_cons]
    exact ⟨⟨rfl, rfl⟩, ⟨rfl, rfl⟩, List.forall_mem_nil _⟩
  exact ⟨htree, ((value_in_degrees _).1 _ htree).2.1, hfree, ((value_in_degrees _).2 hfree).2.1⟩

end Postfix

end SciCalc
