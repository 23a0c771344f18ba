import SciCalc.Proofs.Attempt
import SciCalc.Tree.CallStack

/-!
# Values and texts within the stack

Nested calls find the value and the text of a tree just if the stack has room for the deepest of them. If it has not,
there is no answer but a fault that is found before.
-/

namespace SciCalc

/-- Nested calls have ended for want of room, or before with the fault that they find with enough of it. -/
def CutShort {α : Type} (unlimited : Except Fault α) (found : Except Failure α) : Prop :=
  found = .error .recursionTooDeep ∨ ∃ fault, unlimited = .error fault ∧ found = .error (.fault fault)

section

variable {α β : Type} {unlimited : Except Fault α} {found : Except Failure α} {f : α → Except Fault β}
  {g : α → Except Failure β}

theorem liftM_bind_of_eq (h : ∀ x, g x = liftM (f x)) : liftM unlimited >>= g = liftM (unlimited >>= f) := by
  cases unlimited with
  | error fault => rfl
  | ok x => exact h x

theorem CutShort.bind (h : CutShort unlimited found) (f : α → Except Fault β) (g : α → Except Failure β) :
    CutShort (unlimited >>= f) (found >>= g) := by
  rcases h with rfl | ⟨fault, rfl, rfl⟩
  · exact Or.inl rfl
  · exact Or.inr ⟨fault, rfl, rfl⟩

/-- Two calls, the second of which is made with what the first one has found. Where the first one fits, the second one
is cut short. -/
theorem cutShort_bind {fits : Prop} (hfound : fits → found = liftM unlimited) (hcut : ¬fits → CutShort unlimited found)
    (hbehind : fits → ∀ x, CutShort (f x) (g x)) : CutShort (unlimited >>= f) (found >>= g) := by
  by_cases h : fits
  · rw [hfound h]
    cases unlimited with
    | error fault => exact Or.inr ⟨fault, rfl, rfl⟩
    | ok x => exact hbehind h x
  · exact (hcut h).bind f g

end

namespace CallStack

variable {α : Type} {room frames : Nat} {call : Nat → Except Failure α}

theorem enter_of_le (h : frames ≤ room) : enter room frames call = call (room - frames) := if_pos h

theorem cutShort_enter {unlimited : Except Fault α}
    (h : frames ≤ room → CutShort unlimited (call (room - frames))) : CutShort unlimited (enter room frames call) := by
  by_cases hframes : frames ≤ room
  · rw [enter_of_le hframes]
    exact h hframes
  · exact Or.inl (if_neg hframes)

end CallStack

namespace Tree

open CallStack

variable {frames : Tree → Nat} {room : Nat} {tree : Tree}

theorem evaluateWithin_of_le {unit : AngleUnit} (h : tree.depth frames ≤ room) :
    tree.evaluateWithin frames unit room = liftM (tree.evaluate unit) := by
  induction tree generalizing room with
  | number x => exact enter_of_le h
  | unary op operand ih =>
    rw [depth] at h
    rw [evaluateWithin, enter_of_le (by omega), ih (by omega)]
    exact liftM_bind_of_eq fun x => rfl
  | binary op left right ihl ihr =>
    rw [depth] at h
    rw [evaluateWithin, enter_of_le (by omega), ihl (by omega), ihr (by omega)]
    exact liftM_bind_of_eq fun x => liftM_bind_of_eq fun y => rfl
  | apply f argument ih =>
    rw [depth] at h
    rw [evaluateWithin, enter_of_le (by omega), ih (by omega)]
    exact liftM_bind_of_eq fun x => rfl
  | power base exponent ihb ihe =>
    rw [depth] at h
    rw [evaluateWithin, enter_of_le (by omega), ihb (by omega), ihe (by omega)]
    exact liftM_bind_of_eq fun x => liftM_bind_of_eq fun y => rfl

theorem cutShort_evaluateWithin (unit : AngleUnit) (h : room < tree.depth frames) :
    CutShort (tree.evaluate unit) (tree.evaluateWithin frames unit room) := by
  induction tree generalizing room with
  | number x => exact cutShort_enter fun henter => absurd henter (Nat.not_le.mpr h)
  | unary op operand ih | apply f operand ih =>
    rw [depth] at h
    exact cutShort_enter fun henter => (ih (by omega)).bind _ _
  | binary op left right ihl ihr | power left right ihl ihr =>
    rw [depth] at h
    refine cutShort_enter fun henter =>
      cutShort_bind evaluateWithin_of_le (fun hleft => ihl (Nat.lt_of_not_le hleft)) ?_
    exact fun hleft x => (ihr (by omega)).bind _ _

theorem printWithin_of_le (h : tree.depth frames ≤ room) : tree.printWithin frames room = .ok tree.print := by
  induction tree generalizing room with
  | number x => exact enter_of_le h
  | unary op operand ih | apply f operand ih =>
    rw [depth] at h
    rw [printWithin, enter_of_le (by omega), ih (by omega)]
    rfl
  | binary op left right ihl ihr | power left right ihl ihr =>
    rw [depth] at h
    rw [printWithin, enter_of_le (by omega), ihl (by omega), ihr (by omega)]
    rfl

theorem cutShort_printWithin (h : room < tree.depth frames) :
    CutShort (.ok tree.print) (tree.printWithin frames room) := by
  induction tree generalizing room with
  | number x => exact cutShort_enter fun henter => absurd henter (Nat.not_le.mpr h)
  | unary op operand ih =>
    rw [depth] at h
    exact cutShort_enter fun henter => (ih (by omega)).bind (fun text => .ok (printUnary op text)) _
  | apply f argument ih =>
    rw [depth] at h
    exact cutShort_enter fun henter => (ih (by omega)).bind (fun text => .ok (printApply f text)) _
  | binary op left right ihl ihr =>
    rw [depth] at h
    refine cutShort_enter fun henter => @cutShort_bind _ _ _ _ (fun text => .ok (printBinary op text right.print)) _ _
      printWithin_of_le (fun hleft => ihl (Nat.lt_of_not_le hleft)) ?_
    exact fun hleft text => (ihr (by omega)).bind (fun text' => .ok (printBinary op text text')) _
  | power base exponent ihb ihe =>
    rw [depth] at h
    refine cutShort_enter fun henter => @cutShort_bind _ _ _ _ (fun text => .ok (printPower text exponent.print)) _ _
      printWithin_of_le (fun hbase => ihb (Nat.lt_of_not_le hbase)) ?_
    exact fun hbase text => (ihe (by omega)).bind (fun text' => .ok (printPower text text')) _

/-- The operator applied to the tree again and again. -/
def repeated (op : UnaryOperator) (tree : Tree) : Nat → Tree
  | 0 => tree
  | count + 1 => unary op (tree.repeated op count)

theorem toPostfix_repeated (op : UnaryOperator) (tree : Tree) (count : Nat) : (tree.repeated op count).toPostfix =
    tree.toPostfix ++ List.replicate count (.operator (Operator.unary op).symbol) := by
  induction count with
  | zero => exact (List.append_nil _).symm
  | succ count ih => rw [repeated, toPostfix, ih, List.append_assoc, List.replicate_succ']

theorem depth_repeated {op : UnaryOperator} {each : Nat} (h : ∀ operand, frames (unary op operand) = each)
    (tree : Tree) (count : Nat) : (tree.repeated op count).depth frames = count * each + tree.depth frames := by
  induction count with
  | zero => rw [repeated, Nat.zero_mul, Nat.zero_add]
  | succ count ih => rw [repeated, depth, ih, h, Nat.succ_mul, ← Nat.add_assoc, Nat.add_comm each]

theorem exists_evaluate_repeated {unit : AngleUnit} {x : Float} (h : tree.evaluate unit = .ok x) (op : UnaryOperator)
    (count : Nat) : ∃ y, (tree.repeated op count).evaluate unit = .ok y := by
  induction count with
  | zero => exact ⟨x, h⟩
  | succ count ih =>
    obtain ⟨y, hy⟩ := ih
    exact ⟨op.apply y, by rw [repeated, evaluate, hy, ok_bind, pure_eq_ok]⟩

end Tree

namespace CallStack

variable {stack : CallStack} {unit : AngleUnit} {tree : Tree}

theorem evaluate_of_holds (h : stack.HoldsValue tree) : stack.evaluate unit tree = liftM (tree.evaluate unit) :=
  Tree.evaluateWithin_of_le h

/-- Nested calls find what is found without a limit, or they end for want of room. -/
theorem evaluate_cases (stack : CallStack) (unit : AngleUnit) (tree : Tree) :
    stack.evaluate unit tree = liftM (tree.evaluate unit) ∨
      (stack.evaluate unit tree = .error .recursionTooDeep ∧ ¬stack.HoldsValue tree) := by
  by_cases hholds : stack.HoldsValue tree
  · exact Or.inl (evaluate_of_holds hholds)
  · rcases Tree.cutShort_evaluateWithin unit (Nat.lt_of_not_le hholds) with hdeep | ⟨fault, hfault, hfound⟩
    · exact Or.inr ⟨hdeep, hholds⟩
    · rw [hfault]
      exact Or.inl hfound

/-- What has a value has it within the stack, or the stack is too small. -/
theorem evaluate_of_value {x : Float} (h : tree.evaluate unit = .ok x) :
    stack.evaluate unit tree = if stack.HoldsValue tree then .ok x else .error .recursionTooDeep := by
  split
  · rename_i hholds
    rw [evaluate_of_holds hholds, h]
    rfl
  · rename_i hholds
    rcases Tree.cutShort_evaluateWithin unit (Nat.lt_of_not_le hholds) with hdeep | ⟨fault, hfault, -⟩
    · exact hdeep
    · cases hfault.symm.trans h

theorem print_eq (stack : CallStack) (tree : Tree) :
    stack.print tree = if stack.HoldsText tree then .ok tree.print else .error .recursionTooDeep := by
  split
  · rename_i hholds
    exact Tree.printWithin_of_le hholds
  · rename_i hholds
    rcases Tree.cutShort_printWithin (Nat.lt_of_not_le hholds) with hdeep | ⟨fault, hfault, -⟩
    · exact hdeep
    · cases hfault

end CallStack

end SciCalc
