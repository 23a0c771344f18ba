import SciCalc.Function
import SciCalc.Operator

/-!
# Finite operands

An operation with a finite value has finite operands, but for a quotient by an infinity, which is zero. Powers and the
functions that are not computed from the bits of their argument are left out.
-/

namespace SciCalc.Decimal

open Float.Model Float.Model.UnpackedFloat

section

variable {a b : UnpackedFloat}

/-- Two infinities add up to one of them or to no number. -/
theorem isFinite_of_isFinite_add (h : (UnpackedFloat.add Format.binary64 a b).isFinite = true) :
    a.isFinite = true ∧ b.isFinite = true := by
  cases a <;> cases b
  case infinity.infinity s s' => cases s <;> cases s' <;> contradiction
  all_goals first | contradiction | exact ⟨rfl, rfl⟩

theorem isFinite_of_isFinite_sub (h : (UnpackedFloat.sub Format.binary64 a b).isFinite = true) :
    a.isFinite = true ∧ b.isFinite = true := by
  cases a <;> cases b
  case infinity.infinity s s' => cases s <;> cases s' <;> contradiction
  all_goals first | contradiction | exact ⟨rfl, rfl⟩

theorem isFinite_of_isFinite_mul (h : (UnpackedFloat.mul Format.binary64 a b).isFinite = true) :
    a.isFinite = true ∧ b.isFinite = true := by
  cases a <;> cases b <;> first | contradiction | exact ⟨rfl, rfl⟩

theorem isFinite_of_isFinite_div (h : (UnpackedFloat.div Format.binary64 a b).isFinite = true) :
    a.isFinite = true ∧ (b.isFinite = true ∨ b.isInf = true) := by
  cases a <;> cases b <;> first | contradiction | exact ⟨rfl, Or.inl rfl⟩ | exact ⟨rfl, Or.inr rfl⟩

theorem isFinite_of_isFinite_sqrt (h : (UnpackedFloat.sqrt Format.binary64 a).isFinite = true) : a.isFinite = true := by
  cases a with
  | infinity s => cases s <;> contradiction
  | notANumber => contradiction
  | zero s => rfl
  | finite s m e hm => rfl

end

/-- What is neither zero nor a number with a significand stays so when it is packed. -/
theorem isFinite_of_isFinite_pack {u : UnpackedFloat} (h : (Float.ofModel (.pack u)).isFinite = true) :
    u.isFinite = true := by
  cases u with
  | infinity s => cases s <;> contradiction
  | notANumber => contradiction
  | zero s => rfl
  | finite s m e hm => rfl

section

variable {x y : Float}

theorem isFinite_of_isFinite_quotient (h : (x / y).isFinite = true) :
    x.isFinite = true ∧ (y.isFinite = true ∨ y.isInf = true) :=
  isFinite_of_isFinite_div (isFinite_of_isFinite_pack h)

theorem exists_unpack_of_isInf (h : y.isInf = true) : ∃ s, y.toModel.unpack = .infinity s := by
  have hu : y.toModel.unpack.isInf = true := h
  cases hunpack : y.toModel.unpack with
  | infinity s => exact ⟨s, rfl⟩
  | notANumber | zero | finite =>
    rw [hunpack] at hu
    contradiction

/-- A finite value divided by an infinity is zero. -/
theorem quotient_of_isInf (hx : x.isFinite = true) (hy : y.isInf = true) :
    (y == 0) = false ∧ (x / y).isFinite = true ∧ (x / y == 0) = true := by
  obtain ⟨s, hunpack⟩ := exists_unpack_of_isInf hy
  have hdefined : (y == 0) = false := by
    show (y.toModel.unpack.compare (.zero .positive) == some .eq) = false
    rw [hunpack]
    cases s <;> rfl
  have hquotient : ∃ s', x / y = .ofModel (.pack (.zero s')) := by
    have hfinite : x.toModel.unpack.isFinite = true := hx
    have hdiv : x / y = .ofModel (.pack (UnpackedFloat.div Format.binary64 x.toModel.unpack y.toModel.unpack)) := rfl
    rw [hdiv, hunpack]
    cases hx' : x.toModel.unpack with
    | zero s' => exact ⟨s' / s, rfl⟩
    | finite s' m e hm => exact ⟨s' / s, rfl⟩
    | infinity | notANumber =>
      rw [hx'] at hfinite
      contradiction
  obtain ⟨s', hquotient⟩ := hquotient
  rw [hquotient]
  cases s' <;> exact ⟨hdefined, rfl, rfl⟩

end

end SciCalc.Decimal

namespace SciCalc

open Decimal

theorem UnaryOperator.isFinite_operand {op : UnaryOperator} {x : Float} (h : (op.apply x).isFinite = true) :
    x.isFinite = true := by
  cases op with
  | neg =>
    have hneg : x.toModel.unpack.neg.isFinite = true := isFinite_of_isFinite_pack h
    show x.toModel.unpack.isFinite = true
    cases hx : x.toModel.unpack with
    | zero | finite => rfl
    | infinity | notANumber =>
      rw [hx] at hneg
      contradiction
  | percent => exact (isFinite_of_isFinite_quotient h).1

/-- Of the operators that are computed from the bits only a quotient can be finite beside an infinite operand. -/
theorem BinaryOperator.isFinite_operands {op : BinaryOperator} {x y z : Float} (hop : op ≠ .pow)
    (h : op.apply x y = .ok z) (hz : z.isFinite = true) :
    x.isFinite = true ∧ (y.isFinite = true ∨ op = .div ∧ y.isInf = true) := by
  cases op with
  | pow => contradiction
  | add =>
    cases h
    have hoperands := isFinite_of_isFinite_add (isFinite_of_isFinite_pack hz)
    exact ⟨hoperands.1, Or.inl hoperands.2⟩
  | sub =>
    cases h
    have hoperands := isFinite_of_isFinite_sub (isFinite_of_isFinite_pack hz)
    exact ⟨hoperands.1, Or.inl hoperands.2⟩
  | mul =>
    cases h
    have hoperands := isFinite_of_isFinite_mul (isFinite_of_isFinite_pack hz)
    exact ⟨hoperands.1, Or.inl hoperands.2⟩
  | div =>
    simp only [apply] at h
    split at h
    · contradiction
    · cases h
      obtain ⟨hx, hy⟩ := isFinite_of_isFinite_quotient hz
      exact ⟨hx, hy.imp_right fun hy => ⟨rfl, hy⟩⟩

theorem UnaryFunction.isFinite_argument {f : UnaryFunction} {unit : AngleUnit} {x z : Float}
    (hf : f = .sqrt ∨ f = .abs) (h : f.apply unit x = .ok z) (hz : z.isFinite = true) : x.isFinite = true := by
  rcases hf with rfl | rfl
  · simp only [apply] at h
    split at h
    · contradiction
    · cases h
      exact isFinite_of_isFinite_sqrt (isFinite_of_isFinite_pack hz)
  · cases h
    have habs : x.toModel.unpack.abs.isFinite = true := isFinite_of_isFinite_pack hz
    show x.toModel.unpack.isFinite = true
    cases hx : x.toModel.unpack with
    | zero | finite => rfl
    | infinity | notANumber =>
      rw [hx] at habs
      contradiction

end SciCalc
