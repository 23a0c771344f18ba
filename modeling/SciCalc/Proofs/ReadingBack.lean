import SciCalc.Proofs.Nearest

/-!
# Decimals that read back

A decimal reads back to a magnitude exactly if it is near to it, however its zeros are written. The reader then
finds the bits of the magnitude, also where it decides by the size of the decimal alone.
-/

namespace SciCalc.Decimal

theorem tenTo_add (m n : Nat) : tenTo (m + n) = tenTo m * tenTo n := Nat.pow_add 10 m n

theorem tenTo_pos (n : Nat) : 0 < tenTo n := Nat.pow_pos (by decide)

theorem tenTo_le {m n : Nat} (h : m ≤ n) : tenTo m ≤ tenTo n := Nat.pow_le_pow_right (by decide) h

theorem lt_tenTo_length (n : Nat) : n < tenTo (numeral n).length :=
  (Nat.length_toDigits_le_iff (by decide) Nat.length_toDigits_pos).mp (Nat.le_refl _)

theorem tenTo_length_le {n : Nat} (h : n ≠ 0) : tenTo ((numeral n).length - 1) ≤ n := by
  by_cases hone : (numeral n).length - 1 = 0
  · rw [hone]
    exact Nat.pos_of_ne_zero h
  · have hlen : 0 < (numeral n).length - 1 := Nat.pos_of_ne_zero hone
    rcases Nat.lt_or_ge n (tenTo ((numeral n).length - 1)) with hlt | hge
    · have hle : (numeral n).length ≤ (numeral n).length - 1 :=
        (Nat.length_toDigits_le_iff (by decide) hlen).mpr hlt
      omega
    · exact hge

theorem compare_above {a b : Nat} {ends : Bool} :
    (compare a b == .gt || (ends && compare a b == .eq)) = true ↔ b ≤ a ∧ (b = a → ends = true) := by
  rcases Nat.lt_trichotomy a b with h | rfl | h
  · rw [Nat.compare_eq_lt.mpr h]
    exact ⟨by simp, by omega⟩
  · rw [Nat.compare_eq_eq.mpr rfl]
    simp
  · rw [Nat.compare_eq_gt.mpr h]
    simp only [beq_self_eq_true, Bool.true_or, true_iff]
    omega

theorem compare_below {a b : Nat} {ends : Bool} :
    (compare a b == .lt || (ends && compare a b == .eq)) = true ↔ a ≤ b ∧ (a = b → ends = true) := by
  rcases Nat.lt_trichotomy a b with h | rfl | h
  · rw [Nat.compare_eq_lt.mpr h]
    simp only [beq_self_eq_true, Bool.true_or, true_iff]
    omega
  · rw [Nat.compare_eq_eq.mpr rfl]
    simp
  · rw [Nat.compare_eq_gt.mpr h]
    exact ⟨by simp, by omega⟩

namespace Magnitude

variable {x : Magnitude} {num den : Nat}

/-- Nearness depends on the quotient only. -/
theorem IsNear.congr {num' den' : Nat} (h : x.IsNear num den) (hpos : 0 < den')
    (heq : num * den' = num' * den) : x.IsNear num' den' := by
  have hcross (quarters : Nat) : den * (quarters * den') = quarters * den * den' := by
    rw [Nat.mul_comm den, Nat.mul_right_comm]
  have hnum : den * (4 * num') = 4 * num * den' := by
    rw [Nat.mul_assoc 4, heq, Nat.mul_comm num', Nat.mul_left_comm]
  refine ⟨hpos, ?_, ?_, ?_, ?_⟩
  · apply Nat.le_of_mul_le_mul_left _ h.pos
    rw [hcross, hnum]
    exact Nat.mul_le_mul_right den' h.low
  · apply Nat.le_of_mul_le_mul_left _ h.pos
    rw [hcross, hnum]
    exact Nat.mul_le_mul_right den' h.high
  · intro hend
    have hmul := congrArg (den * ·) hend
    simp only [hcross, hnum] at hmul
    exact h.lowEnd (Nat.eq_of_mul_eq_mul_right hpos hmul)
  · intro hend
    have hmul := congrArg (den * ·) hend
    simp only [hcross, hnum] at hmul
    exact h.highEnd (Nat.eq_of_mul_eq_mul_right hpos hmul)

/-- Nothing but zero is near to less than a quarter of a unit. -/
theorem IsNear.bits_eq_zero (h : x.IsNear num den) (hx : x.IsCanonical) (hsmall : 4 * num < den) :
    x.bits = 0 := by
  obtain ⟨hpos, hlow, -, -, -⟩ := h.bounds rfl rfl
  have hone : den ≤ twoTo x.shift * den := Nat.le_mul_of_pos_left den (twoTo_pos x.shift)
  have hzero : x.significand = 0 := by
    rcases Nat.eq_zero_or_pos x.significand with hz | hp
    · exact hz
    · have hmul := Nat.le_mul_of_pos_left (twoTo x.shift * den) hp
      omega
  have hshift : x.shift = 0 := by
    rcases Nat.eq_zero_or_pos x.shift with hz | hp
    · exact hz
    · have habove := hx.above (Nat.ne_of_gt hp)
      have h52 : twoTo 52 = 4503599627370496 := rfl
      omega
  rw [Magnitude.bits, hzero, hshift, Nat.zero_mul]

/-- No finite magnitude is near to `10 ^ 400`. -/
theorem IsNear.lt_limit (h : x.IsNear num den) (hx : x.IsCanonical) (hbits : x.bits < infinityBits) :
    num < tenTo 400 * unitsPerOne * den := by
  obtain ⟨hpos, -, hhigh, -, -⟩ := h.bounds rfl rfl
  have hshift : x.shift ≤ 2046 := by
    have h52 : twoTo 52 = 4503599627370496 := rfl
    have hinf : infinityBits = 9218868437227405312 := rfl
    rw [Magnitude.bits, h52] at hbits
    omega
  have hstep : twoTo x.shift * den ≤ twoTo 2046 * den :=
    Nat.mul_le_mul_right den (twoTo_le hshift)
  have hgreat : (x.significand + 1) * (twoTo x.shift * den) ≤ twoTo 53 * (twoTo 2046 * den) :=
    Nat.mul_le_mul hx.below hstep
  have hlimit : twoTo 53 * (twoTo 2046 * den) ≤ tenTo 400 * unitsPerOne * den := by
    rw [← Nat.mul_assoc]
    exact Nat.mul_le_mul_right den (by decide +kernel)
  rw [Nat.succ_mul x.significand] at hgreat
  omega

end Magnitude

namespace Digits

open Magnitude

/-- The same quotient. -/
def Same (d d' : Digits) : Prop := d.toRatio.1 * d'.toRatio.2 = d'.toRatio.1 * d.toRatio.2

theorem toRatio_pos (d : Digits) : 0 < d.toRatio.2 := tenTo_pos _

/-- Zeros behind the digits count as powers of ten. -/
theorem same_of_zeros (digits zeros : Nat) (exponent : Int) :
    Same ⟨digits * tenTo zeros, exponent⟩ ⟨digits, exponent + zeros⟩ := by
  have hexponents : zeros + (exponent.toNat + (-(exponent + zeros)).toNat) =
      (exponent + zeros).toNat + (-exponent).toNat := by omega
  have hpowers := congrArg tenTo hexponents
  rw [tenTo_add, tenTo_add, tenTo_add] at hpowers
  simp only [Same, toRatio, Nat.mul_assoc]
  rw [hpowers]

theorem readsBack_iff (d : Digits) (x : Magnitude) :
    d.readsBack x = true ↔ x.IsNear (d.toRatio.1 * unitsPerOne) d.toRatio.2 := by
  have hunits : d.toRatio.1 * (4 * unitsPerOne) = 4 * (d.toRatio.1 * unitsPerOne) := Nat.mul_left_comm _ _ _
  simp only [readsBack, compareQuarters, Bool.and_eq_true, hunits, compare_above, compare_below,
    beq_iff_eq]
  constructor
  · rintro ⟨⟨hlow, hlowEnd⟩, hhigh, hhighEnd⟩
    exact ⟨d.toRatio_pos, hlow, hhigh, hlowEnd, hhighEnd⟩
  · rintro ⟨-, hlow, hhigh, hlowEnd, hhighEnd⟩
    exact ⟨⟨hlow, hlowEnd⟩, hhigh, hhighEnd⟩

theorem Same.readsBack {d d' : Digits} {x : Magnitude} (hsame : Same d d') (h : d.readsBack x = true) :
    d'.readsBack x = true := by
  rw [readsBack_iff] at h ⊢
  refine h.congr d'.toRatio_pos ?_
  rw [Nat.mul_right_comm, hsame, Nat.mul_right_comm]

theorem Same.symm {d d' : Digits} (h : Same d d') : Same d' d := Eq.symm h

theorem small_of_scale {d : Digits} (h : ((numeral d.digits).length : Int) + d.exponent < -400) :
    d.toRatio.1 * tenTo 401 ≤ d.toRatio.2 := by
  have hdigits := lt_tenTo_length d.digits
  have hexponent : d.exponent.toNat = 0 := by omega
  have hle : tenTo ((numeral d.digits).length + 401) ≤ tenTo (-d.exponent).toNat :=
    tenTo_le (by omega)
  have hone : tenTo 0 = 1 := rfl
  simp only [toRatio, hexponent, hone, Nat.mul_one]
  rw [tenTo_add] at hle
  exact Nat.le_trans (Nat.mul_le_mul_right _ (Nat.le_of_lt hdigits)) hle

theorem great_of_scale {d : Digits} (hne : d.digits ≠ 0)
    (h : 400 < ((numeral d.digits).length : Int) + d.exponent) :
    tenTo 400 * d.toRatio.2 ≤ d.toRatio.1 := by
  have hdigits := tenTo_length_le hne
  have hle : tenTo (400 + (-d.exponent).toNat) ≤
      tenTo ((numeral d.digits).length - 1 + d.exponent.toNat) := tenTo_le (by omega)
  rw [tenTo_add, tenTo_add] at hle
  exact Nat.le_trans hle (Nat.mul_le_mul_right _ hdigits)

/-- A decimal that reads back to a finite magnitude is read as it. -/
theorem nearestBits_eq {d : Digits} {x : Magnitude} (h : d.readsBack x = true) (hx : x.IsCanonical)
    (hbits : x.bits < infinityBits) : d.nearestBits = x.bits := by
  rw [readsBack_iff] at h
  simp only [nearestBits]
  split
  · rename_i hsmall
    refine (h.bits_eq_zero hx ?_).symm
    rcases Bool.or_eq_true_iff.mp hsmall with hzero | hscale
    · have hzero : d.digits = 0 := of_decide_eq_true hzero
      simp only [toRatio, hzero, Nat.zero_mul, Nat.mul_zero]
      exact tenTo_pos _
    · have hle := small_of_scale (of_decide_eq_true hscale)
      have hunits : 4 * unitsPerOne < tenTo 401 := by decide +kernel
      rw [Nat.mul_left_comm]
      rcases Nat.eq_zero_or_pos d.toRatio.1 with hzero | hpos
      · rw [hzero, Nat.zero_mul]
        exact d.toRatio_pos
      · exact Nat.lt_of_lt_of_le (Nat.mul_lt_mul_of_pos_left hunits hpos) hle
  · rename_i hdigits
    split
    · rename_i hgreat
      have hne : d.digits ≠ 0 := by
        intro hzero
        simp [hzero] at hdigits
      have hlimit := h.lt_limit hx hbits
      have hle := Nat.mul_le_mul_right unitsPerOne (great_of_scale hne hgreat)
      rw [Nat.mul_right_comm] at hle
      exact absurd hlimit (Nat.not_lt.mpr hle)
    · exact h.nearestBits hx hbits

end Digits

end SciCalc.Decimal
