import SciCalc.Proofs.ClosedEvaluation

/-!
# Values of phrases

The machine leaves one value for a phrase above the stack it found, and for arguments as many as there are, or it ends
with a fault. So an operator that gets a single phrase for its two operands is at fault.
-/

namespace SciCalc

namespace Postfix

/-- A run of the elements that comes to its end leaves so many values above the stack it found. -/
def Leaves (unit : AngleUnit) (count : Nat) (elements : List Postfix) : Prop :=
  ∀ stack final, run unit stack elements = .ok final → ∃ values, values.length = count ∧ final = values ++ stack

section

variable {unit : AngleUnit} {count count' : Nat} {elements elements' : List Postfix}

theorem exists_middle {stack final : List Float} (h : run unit stack (elements ++ elements') = .ok final) :
    ∃ middle, run unit stack elements = .ok middle ∧ run unit middle elements' = .ok final := by
  rw [run, List.foldlM_append] at h
  exact bind_eq_ok h

theorem leaves_literal (unit : AngleUnit) (value : Float) : Leaves unit 1 [.literal value] := by
  intro stack final h
  cases h
  exact ⟨[value], rfl, rfl⟩

theorem leaves_nil (unit : AngleUnit) : Leaves unit 0 [] := by
  intro stack final h
  cases h
  exact ⟨[], rfl, rfl⟩

theorem Leaves.append (h : Leaves unit count elements) (h' : Leaves unit count' elements') :
    Leaves unit (count + count') (elements ++ elements') := by
  intro stack final hrun
  obtain ⟨middle, hfront, hback⟩ := exists_middle hrun
  obtain ⟨values, rfl, rfl⟩ := h stack middle hfront
  obtain ⟨values', rfl, rfl⟩ := h' _ final hback
  exact ⟨values' ++ values, by rw [List.length_append, Nat.add_comm], (List.append_assoc _ _ _).symm⟩

/-- An element that takes all the values puts one in their place. -/
theorem Leaves.apply {element : Postfix} (h : Leaves unit count elements) (hcompiled : element.IsCompiled)
    (hoperands : element.operands? = some (count : Int)) : Leaves unit 1 (elements ++ [element]) := by
  intro stack final hrun
  obtain ⟨middle, hfront, hlast⟩ := exists_middle hrun
  obtain ⟨values, hvalues, rfl⟩ := h stack middle hfront
  obtain ⟨next, hnext, hnil⟩ := bind_eq_ok hlast
  obtain rfl : next = final := Except.ok.inj hnil
  rcases hcompiled.settles unit (values ++ stack) with ⟨operands, rest, value, hstack, hcount, hstep⟩ | ⟨fault, -, hstep⟩
  · have hlength : values.length = operands.length := by
      have hsame := Option.some.inj (hoperands.symm.trans hcount)
      omega
    obtain ⟨-, rfl⟩ := List.append_inj hstack hlength
    obtain rfl : value :: stack = next := Except.ok.inj (hstep.symm.trans hnext)
    exact ⟨[value], rfl, rfl⟩
  · cases hstep.symm.trans hnext

theorem Leaves.operator (op : Operator) (h : Leaves unit op.arity elements) :
    Leaves unit 1 (elements ++ [.operator op.symbol]) := h.apply (.operator op) (operands?_operator op)

/-- A call with another number of arguments than the function takes does not come to its end. -/
theorem Leaves.call (f : Function) (h : Leaves unit count elements) :
    Leaves unit 1 (elements ++ [.call f.name (some (count : Int))]) := by
  by_cases hcount : (count : Int) = f.arity
  · refine h.apply (.call f count) ?_
    rw [operands?_call, hcount]
  · intro stack final hrun
    obtain ⟨middle, -, hlast⟩ := exists_middle hrun
    obtain ⟨next, hnext, -⟩ := bind_eq_ok hlast
    simp only [step, applyFunction, Function.ofName?_name, Option.getD_some, bne_iff_ne.mpr hcount, if_true] at hnext
    contradiction

/-- A binary operator that gets only one value is at fault, whatever comes behind it. -/
theorem Leaves.underflow (h : Leaves unit 1 elements) (op : BinaryOperator) (rest : List Postfix) :
    evaluate unit (elements ++ .operator (Operator.binary op).symbol :: rest) =
      evaluate unit elements >>= fun _ => .error (.stackUnderflow (Operator.binary op).symbol 2 1) := by
  rw [evaluate, evaluate, run, List.foldlM_append, ← run]
  cases hrun : run unit [] elements with
  | error fault => rfl
  | ok final =>
    obtain ⟨values, hvalues, rfl⟩ := h [] final hrun
    obtain ⟨value, rfl⟩ := List.length_eq_one_iff.mp hvalues
    have hstep : step unit ([value] ++ []) (.operator (Operator.binary op).symbol) =
        .error (.stackUnderflow (Operator.binary op).symbol 2 1) := by
      simp only [step, applyOperator, Operator.ofSymbol?_symbol]
      rfl
    rw [ok_bind, List.foldlM_cons, hstep]
    rfl

end

end Postfix

namespace Infix

open Postfix

/-- What the machine makes of the post-order of a phrase. -/
def IsRun (unit : AngleUnit) : {level : Level} → Infix level → Prop
  | .arguments, arguments => Leaves unit arguments.count arguments.postorder
  | _, phrase => Leaves unit 1 phrase.postorder

theorem isRun (unit : AngleUnit) {level : Level} (phrase : Infix level) : phrase.IsRun unit := by
  induction phrase with
  | product only ih => exact ih
  | sum left op hop offset right ihl ihr => exact Leaves.operator (.binary op) (Leaves.append ihl ihr)
  | signed only ih => exact ih
  | times left op hop offset right ihl ihr => exact Leaves.operator (.binary op) (Leaves.append ihl ihr)
  | minus offset inner ih => exact Leaves.operator (.unary .neg) ih
  | unsigned only ih => exact ih
  | base only ih => exact ih
  | raised lower offset exponent ihl ihe => exact Leaves.operator (.binary .pow) (Leaves.append ihl ihe)
  | operand only ih => exact ih
  | percent inner offset ih => exact Leaves.operator (.unary .percent) ih
  | number text htext offset => exact leaves_literal unit _
  | constant text value hvalue offset => exact leaves_literal unit value
  | group first inner last ih => exact ih
  | callNone text rule hrule offset first last =>
    obtain ⟨f, rfl⟩ := Tables.exists_function hrule
    exact Leaves.call f (leaves_nil unit)
  | call text rule hrule offset first arguments last ih =>
    obtain ⟨f, rfl⟩ := Tables.exists_function hrule
    exact Leaves.call f ih
  | argument only ih =>
    simp only [IsRun, count]
    exact ih
  | comma before offset last ihb ihl =>
    simp only [IsRun, count]
    exact Leaves.append ihb ihl

end Infix

end SciCalc
