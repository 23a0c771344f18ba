import SciCalc.Proofs.RepeatedRounding
import SciCalc.Proofs.ShownValues

/-!
# Rounded values

Rounding for display keeps the order of the values and their signs, and rounding a second time changes nothing. This
holds for all numbers of digits that can be asked for at all.
-/

namespace SciCalc.Decimal

section

variable {bits bits' : Nat}

theorem neg_signAndBits_of_le (negative : Bool) (h : bits ≤ Magnitude.infinityBits) :
    -ofSignAndBits negative bits = ofSignAndBits (!negative) bits := by
  rcases Nat.lt_or_eq_of_le h with hfinite | rfl
  · exact neg_signAndBits negative hfinite
  · cases negative <;> rfl

/-- A map that keeps the order of magnitudes, and zero, keeps the order of signed ones. -/
theorem signedBits_le {f : Nat → Nat} (hzero : f 0 = 0)
    (hmono : ∀ bits bits', bits ≤ bits' → bits' < Magnitude.infinityBits → f bits ≤ f bits') {negative negative' : Bool}
    (h : bits < Magnitude.infinityBits) (h' : bits' < Magnitude.infinityBits)
    (hle : signedBits negative bits ≤ signedBits negative' bits') :
    signedBits negative (f bits) ≤ signedBits negative' (f bits') := by
  cases negative <;> cases negative' <;> simp only [signedBits_true, signedBits_false] at hle ⊢
  · have := hmono bits bits' (by omega) h'
    omega
  · obtain ⟨rfl, rfl⟩ : bits = 0 ∧ bits' = 0 := by omega
    rw [hzero]
    omega
  · omega
  · have := hmono bits' bits (by omega) h
    omega

end

theorem Digits.nearestBits_of_digits_zero {d : Digits} (h : d.digits = 0) : d.nearestBits = 0 := by
  rw [nearestBits, if_pos]
  rw [decide_eq_true h, Bool.true_or]

end SciCalc.Decimal

namespace SciCalc.Display

open Decimal

/-- The least number of digits that is too great to be asked for. -/
def tooManyDigits : Int := 0x80000000

/-- What magnitude bits are rounded to. -/
def roundedBits (count bits : Nat) : Nat := (Digits.significant (.ofBits bits) (count + 1)).nearestBits

section

variable {precision : Int} {count bits bits' : Nat}

theorem roundedBits_le_infinityBits (count bits : Nat) : roundedBits count bits ≤ Magnitude.infinityBits :=
  Digits.nearestBits_le_infinityBits _

theorem roundedBits_zero (count : Nat) : roundedBits count 0 = 0 := by
  have hnone (exponent : Int) : (Digits.steps (.ofBits 0) exponent).1 ≤ 0 * (Digits.steps (.ofBits 0) exponent).2 := by
    have hunits : (Magnitude.ofBits 0).units = 0 := by decide
    simp [Digits.steps, hunits]
  have hsteps : (Digits.uncarried (.ofBits 0) (count + 1)).digits = 0 := by
    rw [Digits.digits_uncarried]
    exact Nat.eq_zero_of_le_zero (roundDiv_le (Digits.steps_pos _ _) (hnone _))
  rw [roundedBits, Digits.nearestBits_uncarried]
  exact Digits.nearestBits_of_digits_zero hsteps

theorem roundedBits_le (h : bits ≤ bits') (h' : bits' < Magnitude.infinityBits) :
    roundedBits count bits ≤ roundedBits count bits' :=
  Digits.nearestBits_significant_le h h' count

theorem roundedBits_again (hfinite : roundedBits count bits < Magnitude.infinityBits) :
    roundedBits count (roundedBits count bits) = roundedBits count bits :=
  Digits.nearestBits_significant_again count hfinite

theorem orStandard_of_ne (h : precision ≠ 0) :
    Settings.orStandard precision Settings.standard.precision = precision :=
  if_neg h

/-- A number of digits that can be asked for is that of the digits that are found, or beyond all of them. -/
theorem exists_digitCount (hlow : 1 ≤ precision) (hhigh : precision < tooManyDigits) :
    ∃ count, digitCount precision = .ok (count + 1) := by
  have hlimit : tooManyDigits = 0x80000000 := rfl
  have hmost : mostDigits = 767 := rfl
  refine ⟨min precision.toNat mostDigits - 1, ?_⟩
  rw [digitCount, if_neg (by omega), if_neg (by omega), if_neg (by omega)]
  congr 1
  omega

theorem digitCount_of_tooMany (h : tooManyDigits ≤ precision) : digitCount precision =
    .error (if precision < 0x8000000000000000 then .precisionTooBig else .precisionUnreadable) := by
  have hlimit : tooManyDigits = 0x80000000 := rfl
  rw [digitCount, if_neg (by omega)]
  by_cases hreadable : precision < 0x8000000000000000
  · rw [if_neg (by omega), if_pos (by omega), if_pos hreadable]
  · rw [if_pos (by omega), if_neg hreadable]

/-- A finite value keeps its sign, and its magnitude is rounded. -/
theorem rounded_signAndBits (hlow : 1 ≤ precision) (hcount : digitCount precision = .ok (count + 1)) (negative : Bool)
    (h : bits < Magnitude.infinityBits) :
    rounded precision (ofSignAndBits negative bits) = .ok (ofSignAndBits negative (roundedBits count bits)) := by
  simp only [rounded, beq_zero negative h, isFinite_signAndBits negative h, orStandard_of_ne (Int.ne_of_gt hlow), hcount,
    magnitude_signAndBits negative h, isNegative_signAndBits negative h, Bool.not_true, Bool.or_false, decide_eq_true_iff]
  by_cases hzero : bits = 0
  · rw [if_pos hzero, hzero, roundedBits_zero]
  · rw [if_neg hzero]
    rfl

theorem rounded_infinity (precision : Int) (negative : Bool) :
    rounded precision (ofSignAndBits negative Magnitude.infinityBits) =
      .ok (ofSignAndBits negative Magnitude.infinityBits) := by
  rw [rounded, if_pos]
  cases negative <;> rfl

theorem rounded_signAndBits_again (hlow : 1 ≤ precision) (hcount : digitCount precision = .ok (count + 1))
    (negative : Bool) : rounded precision (ofSignAndBits negative (roundedBits count bits)) =
      .ok (ofSignAndBits negative (roundedBits count bits)) := by
  rcases Nat.lt_or_eq_of_le (roundedBits_le_infinityBits count bits) with hfinite | hinfinite
  · rw [rounded_signAndBits hlow hcount negative hfinite, roundedBits_again hfinite]
  · rw [hinfinite, rounded_infinity]

theorem rounded_of_tooMany (h : tooManyDigits ≤ precision) {x : Float} (hfinite : x.isFinite = true)
    (hzero : (x == 0) = false) : rounded precision x =
      .error (if precision < 0x8000000000000000 then .precisionTooBig else .precisionUnreadable) := by
  have hlimit : tooManyDigits = 0x80000000 := rfl
  rw [rounded, hzero, hfinite, orStandard_of_ne (by omega), digitCount_of_tooMany h]
  rfl

/-- Rounding for display keeps order and sign, and a second time it changes nothing, up to the number of digits that
is too great: from there on no value but zero is rounded. -/
theorem rounded_is_stable (hlow : 1 ≤ precision) {x y : Float} (hx : x.isFinite = true) (hy : y.isFinite = true)
    (hle : x ≤ y) :
    (precision < tooManyDigits → ∃ x' y', rounded precision x = .ok x' ∧ rounded precision y = .ok y' ∧ x' ≤ y' ∧
      rounded precision (-x) = .ok (-x') ∧ rounded precision x' = .ok x') ∧
    (tooManyDigits ≤ precision → (x == 0) = false → rounded precision x =
      .error (if precision < 0x8000000000000000 then .precisionTooBig else .precisionUnreadable)) := by
  constructor
  · intro hhigh
    obtain ⟨count, hcount⟩ := exists_digitCount hlow hhigh
    obtain ⟨negative, bits, h, rfl⟩ := exists_signAndBits hx
    obtain ⟨negative', bits', h', rfl⟩ := exists_signAndBits hy
    refine ⟨_, _, rounded_signAndBits hlow hcount negative h, rounded_signAndBits hlow hcount negative' h', ?_, ?_,
      rounded_signAndBits_again hlow hcount negative⟩
    · rw [le_signAndBits negative negative' (Nat.le_of_lt h) (Nat.le_of_lt h')] at hle
      rw [le_signAndBits negative negative' (roundedBits_le_infinityBits _ _) (roundedBits_le_infinityBits _ _)]
      exact signedBits_le (roundedBits_zero count) (fun _ _ => roundedBits_le) h h' hle
    · rw [neg_signAndBits negative h, neg_signAndBits_of_le negative (roundedBits_le_infinityBits _ _)]
      exact rounded_signAndBits hlow hcount _ h
  · intro htoo hzero
    exact rounded_of_tooMany htoo hx hzero

theorem rounded_is_stable_at_two_digits :
    ∃ x' y', rounded 2 (1.25 : Float) = .ok x' ∧ rounded 2 (1.35 : Float) = .ok y' ∧ x' ≤ y' ∧
      rounded 2 (-1.25 : Float) = .ok (-x') ∧ rounded 2 x' = .ok x' :=
  (rounded_is_stable (by decide) (by decide +kernel) (by decide +kernel) (by decide +kernel)).1 (by decide)

/-- A finite value other than zero that cannot be rounded to too many digits. -/
theorem rounded_to_too_many_digits : (1.5 : Float).isFinite = true ∧ (1.5 : Float) ≤ 1.5 ∧
    rounded 0x80000000 (1.5 : Float) = .error .precisionTooBig ∧
    ¬∃ value, rounded 0x80000000 (1.5 : Float) = .ok value := by
  have herror : rounded 0x80000000 (1.5 : Float) = .error .precisionTooBig := by rfl
  refine ⟨by decide +kernel, by decide +kernel, herror, ?_⟩
  rintro ⟨value, hvalue⟩
  rw [herror] at hvalue
  contradiction

end

end SciCalc.Display
