import SciCalc.Proofs.ReadingBack

/-!
# Rounding keeps the order

A greater magnitude has a greater or equal decimal of so many digits, and a greater decimal is read as a greater
or equal value. So whatever is true of all that is rounded far enough is decided at the greatest magnitude.
-/

namespace SciCalc.Decimal

/-- The rounded quotient is at most one half away, and on a tie it is even. -/
theorem roundDiv_spec (num : Nat) {den : Nat} (hden : 0 < den) :
    2 * (roundDiv num den * den) ≤ 2 * num + den ∧ 2 * num ≤ 2 * (roundDiv num den * den) + den ∧
    (2 * (roundDiv num den * den) = 2 * num + den ∨ 2 * num = 2 * (roundDiv num den * den) + den →
      roundDiv num den % 2 = 0) := by
  have hsplit : den * (num / den) + num % den = num := Nat.div_add_mod num den
  have hrest : num % den < den := Nat.mod_lt num hden
  rw [Nat.mul_comm] at hsplit
  unfold roundDiv
  generalize num / den = quotient at hsplit ⊢
  generalize num % den = rest at hsplit hrest ⊢
  rcases Nat.lt_trichotomy (2 * rest) den with h | h | h
  · simp only [Nat.compare_eq_lt.mpr h]
    omega
  · simp only [Nat.compare_eq_eq.mpr h]
    split
    · omega
    · rw [Nat.succ_mul quotient den]
      omega
  · simp only [Nat.compare_eq_gt.mpr h]
    rw [Nat.succ_mul quotient den]
    omega

theorem roundDiv_le_roundDiv {num den num' den' : Nat} (hden : 0 < den) (hden' : 0 < den')
    (h : num * den' ≤ num' * den) : roundDiv num den ≤ roundDiv num' den' := by
  obtain ⟨hlow, -, htie⟩ := roundDiv_spec num hden
  obtain ⟨-, hhigh, htie'⟩ := roundDiv_spec num' hden'
  generalize roundDiv num den = r at hlow htie ⊢
  generalize roundDiv num' den' = r' at hhigh htie' ⊢
  rcases Nat.lt_or_ge r' r with hless | hle
  · have hpos : 0 < den * den' := Nat.mul_pos hden hden'
    have hstep : (r' + 1) * (den * den') ≤ r * (den * den') := Nat.mul_le_mul_right _ hless
    rw [Nat.succ_mul r'] at hstep
    have hlow' := Nat.mul_le_mul_right den' hlow
    have hhigh' := Nat.mul_le_mul_right den hhigh
    simp only [Nat.add_mul, Nat.mul_assoc] at hlow' hhigh'
    rw [Nat.mul_comm den' den] at hhigh'
    have heq : r = r' + 1 := by
      rcases Nat.lt_or_ge (r' + 1) r with hmore | hle
      · have htwo : (r' + 2) * (den * den') ≤ r * (den * den') := Nat.mul_le_mul_right _ hmore
        rw [Nat.add_mul] at htwo
        omega
      · omega
    have heven : r % 2 = 0 := by
      refine htie (Or.inl (Nat.eq_of_mul_eq_mul_right hden' ?_))
      simp only [Nat.add_mul, Nat.mul_assoc]
      omega
    have heven' : r' % 2 = 0 := by
      refine htie' (Or.inr (Nat.eq_of_mul_eq_mul_right hden ?_))
      simp only [Nat.add_mul, Nat.mul_assoc]
      rw [Nat.mul_comm den' den]
      omega
    omega
  · exact hle

theorem roundDiv_one (num : Nat) : roundDiv num 1 = num :=
  roundDiv_eq Nat.one_pos (by omega) (by omega) (by omega)

/-- An integer that bounds a quotient bounds the rounded one. -/
theorem roundDiv_le {num den bound : Nat} (hden : 0 < den) (h : num ≤ bound * den) :
    roundDiv num den ≤ bound := by
  have hle : roundDiv num den ≤ roundDiv bound 1 :=
    roundDiv_le_roundDiv hden Nat.one_pos (by rwa [Nat.mul_one])
  rwa [roundDiv_one] at hle

theorem le_roundDiv {num den bound : Nat} (hden : 0 < den) (h : bound * den ≤ num) :
    bound ≤ roundDiv num den := by
  have hle : roundDiv bound 1 ≤ roundDiv num den :=
    roundDiv_le_roundDiv Nat.one_pos hden (by rwa [Nat.mul_one])
  rwa [roundDiv_one] at hle

namespace Magnitude

/-- The excess of a number of units over fifty-three bits, as it is found. -/
def excess (units : Nat) : Nat := if units = 0 then 0 else units.log2 - 52

theorem excess_le {units units' : Nat} (h : units ≤ units') : excess units ≤ excess units' := by
  unfold excess
  by_cases hzero : units = 0
  · rw [if_pos hzero]
    exact Nat.zero_le _
  · have hzero' : units' ≠ 0 := by omega
    have hlog : units.log2 ≤ units'.log2 := (Nat.le_log2 hzero').mpr (Nat.le_trans (Nat.log2_self_le hzero) h)
    rw [if_neg hzero, if_neg hzero']
    omega

theorem lt_of_excess (units : Nat) : units < twoTo (53 + excess units) := by
  unfold excess
  split
  · have := twoTo_pos (53 + 0)
    omega
  · rename_i hzero
    exact (Nat.log2_lt hzero).mp (by omega)

theorem le_of_excess {units : Nat} (h : excess units ≠ 0) : twoTo (52 + excess units) ≤ units := by
  unfold excess at h ⊢
  split at h
  · contradiction
  · rename_i hzero
    rw [if_neg hzero]
    exact (Nat.le_log2 hzero).mp (by omega)

section

variable {units den : Nat}

/-- On the grid that is found for a number of units it is below the least significand of the next grid. -/
theorem lt_mul_of_excess (hden : 0 < den) : units < twoTo 53 * (den * twoTo (excess (units / den))) := by
  have hlt := (Nat.div_lt_iff_lt_mul hden).mp (lt_of_excess (units / den))
  rwa [twoTo_add, Nat.mul_assoc, Nat.mul_comm (twoTo (excess _))] at hlt

theorem mul_le_of_excess (hden : 0 < den) (h : excess (units / den) ≠ 0) :
    twoTo 52 * (den * twoTo (excess (units / den))) ≤ units := by
  have hle := (Nat.le_div_iff_mul_le hden).mp (le_of_excess h)
  rwa [twoTo_add, Nat.mul_assoc, Nat.mul_comm (twoTo (excess _))] at hle

theorem roundDiv_le_of_excess (hden : 0 < den) : roundDiv units (den * twoTo (excess (units / den))) ≤ twoTo 53 :=
  roundDiv_le (Nat.mul_pos hden (twoTo_pos _)) (Nat.le_of_lt (lt_mul_of_excess hden))

theorem le_roundDiv_of_excess (hden : 0 < den) (h : excess (units / den) ≠ 0) :
    twoTo 52 ≤ roundDiv units (den * twoTo (excess (units / den))) :=
  le_roundDiv (Nat.mul_pos hden (twoTo_pos _)) (mul_le_of_excess hden h)

end

/-- The grid is found first, then the units are rounded on it. -/
theorem nearestBits_eq_min (num den : Nat) : nearestBits num den =
    min (excess (num * unitsPerOne / den) * twoTo 52 +
      roundDiv (num * unitsPerOne) (den * twoTo (excess (num * unitsPerOne / den)))) infinityBits := rfl

theorem nearestBits_le_nearestBits {num den num' den' : Nat} (hden : 0 < den) (hden' : 0 < den')
    (h : num * den' ≤ num' * den) : nearestBits num den ≤ nearestBits num' den' := by
  have hunits : num * unitsPerOne * den' ≤ num' * unitsPerOne * den := by
    rw [Nat.mul_right_comm, Nat.mul_right_comm num']
    exact Nat.mul_le_mul_right _ h
  rw [nearestBits_eq_min, nearestBits_eq_min]
  generalize num * unitsPerOne = a at hunits ⊢
  generalize num' * unitsPerOne = a' at hunits ⊢
  have hquotient : a / den ≤ a' / den' := by
    refine (Nat.le_div_iff_mul_le hden').mpr (Nat.le_of_mul_le_mul_right ?_ hden)
    have hfloor := Nat.mul_le_mul_right den' (Nat.div_mul_le_self a den)
    rw [Nat.mul_right_comm]
    omega
  have hexcess := excess_le hquotient
  have hgreatest := @roundDiv_le_of_excess a den hden
  have hleast := @le_roundDiv_of_excess a' den' hden'
  generalize excess (a / den) = shift at hexcess hgreatest ⊢
  generalize excess (a' / den') = shift' at hexcess hleast ⊢
  have hpos : 0 < den * twoTo shift := Nat.mul_pos hden (twoTo_pos shift)
  have hpos' : 0 < den' * twoTo shift' := Nat.mul_pos hden' (twoTo_pos shift')
  have hbits : shift * twoTo 52 + roundDiv a (den * twoTo shift) ≤
      shift' * twoTo 52 + roundDiv a' (den' * twoTo shift') := by
    rcases Nat.lt_or_eq_of_le hexcess with hless | rfl
    · have habove := hleast (by omega)
      have hshift : (shift + 1) * twoTo 52 ≤ shift' * twoTo 52 := Nat.mul_le_mul_right _ hless
      have h53 : twoTo 53 = 2 * twoTo 52 := twoTo_succ 52
      rw [Nat.succ_mul shift] at hshift
      omega
    · have hmul := Nat.mul_le_mul_right (twoTo shift) hunits
      rw [Nat.mul_assoc, Nat.mul_assoc] at hmul
      have hround := roundDiv_le_roundDiv hpos hpos' hmul
      omega
  exact Nat.le_min.mpr ⟨Nat.le_trans (Nat.min_le_left _ _) hbits, Nat.min_le_right _ _⟩

/-- A magnitude with greater bits has more units. -/
theorem units_le_units {x y : Magnitude} (hx : x.IsCanonical) (hy : y.IsCanonical) (hbits : x.bits ≤ y.bits) :
    x.units ≤ y.units := by
  rw [units, units]
  rcases Nat.lt_trichotomy x.shift y.shift with hless | heq | hmore
  · have hx53 : x.significand * twoTo x.shift ≤ twoTo 53 * twoTo x.shift :=
      Nat.mul_le_mul_right _ (Nat.le_of_lt hx.below)
    have hy52 : twoTo 52 * twoTo y.shift ≤ y.significand * twoTo y.shift :=
      Nat.mul_le_mul_right _ (hy.above (Nat.ne_of_gt (Nat.zero_lt_of_lt hless)))
    have hgrid : twoTo (53 + x.shift) ≤ twoTo (52 + y.shift) := twoTo_le (by omega)
    rw [twoTo_add, twoTo_add] at hgrid
    exact Nat.le_trans hx53 (Nat.le_trans hgrid hy52)
  · rw [bits, bits, heq] at hbits
    rw [heq]
    exact Nat.mul_le_mul_right _ (Nat.le_of_add_le_add_left hbits)
  · exact absurd hbits (Nat.not_le.mpr (hy.bits_lt_bits hx hmore))

theorem unitsPerOne_pos : 0 < unitsPerOne := twoTo_pos 1074

end Magnitude

namespace Digits

open Magnitude

/-- The order of the quotients. -/
def Le (d d' : Digits) : Prop := d.toRatio.1 * d'.toRatio.2 ≤ d'.toRatio.1 * d.toRatio.2

section

variable {d d' d'' : Digits}

theorem Le.trans (h : Le d d') (h' : Le d' d'') : Le d d'' := by
  refine Nat.le_of_mul_le_mul_right ?_ d'.toRatio_pos
  calc d.toRatio.1 * d''.toRatio.2 * d'.toRatio.2
      = d.toRatio.1 * d'.toRatio.2 * d''.toRatio.2 := Nat.mul_right_comm _ _ _
    _ ≤ d'.toRatio.1 * d.toRatio.2 * d''.toRatio.2 := Nat.mul_le_mul_right _ h
    _ = d'.toRatio.1 * d''.toRatio.2 * d.toRatio.2 := Nat.mul_right_comm _ _ _
    _ ≤ d''.toRatio.1 * d'.toRatio.2 * d.toRatio.2 := Nat.mul_le_mul_right _ h'
    _ = d''.toRatio.1 * d.toRatio.2 * d'.toRatio.2 := Nat.mul_right_comm _ _ _

theorem Same.le (h : Same d d') : Le d d' := Nat.le_of_eq h

theorem le_of_digits {digits digits' : Nat} (h : digits ≤ digits') (exponent : Int) :
    Le ⟨digits, exponent⟩ ⟨digits', exponent⟩ :=
  Nat.mul_le_mul_right _ (Nat.mul_le_mul_right _ h)

/-- Powers of ten are in the order of their exponents. -/
theorem le_of_exponent {exponent exponent' : Int} (h : exponent ≤ exponent') :
    Le ⟨1, exponent⟩ ⟨1, exponent'⟩ := by
  have hpowers : tenTo (exponent.toNat + (-exponent').toNat) ≤ tenTo (exponent'.toNat + (-exponent).toNat) :=
    tenTo_le (by omega)
  rw [tenTo_add, tenTo_add] at hpowers
  simpa only [Le, toRatio, Nat.one_mul] using hpowers

/-- The reader may decide by the size of a decimal alone, but that changes nothing. -/
theorem nearestBits_eq_ratio (d : Digits) : d.nearestBits = Magnitude.nearestBits d.toRatio.1 d.toRatio.2 := by
  simp only [nearestBits]
  split
  · rename_i hsmall
    have hleast : Magnitude.nearestBits 1 (tenTo 401) = 0 := by decide +kernel
    have hle : Magnitude.nearestBits d.toRatio.1 d.toRatio.2 ≤ Magnitude.nearestBits 1 (tenTo 401) := by
      refine nearestBits_le_nearestBits d.toRatio_pos (tenTo_pos 401) ?_
      rw [Nat.one_mul]
      rcases Bool.or_eq_true_iff.mp hsmall with hzero | hscale
      · have hzero : d.digits = 0 := of_decide_eq_true hzero
        simp only [toRatio, hzero, Nat.zero_mul]
        exact Nat.zero_le _
      · exact small_of_scale (of_decide_eq_true hscale)
    omega
  · rename_i hdigits
    split
    · rename_i hgreat
      have hne : d.digits ≠ 0 := by
        intro hzero
        simp [hzero] at hdigits
      have hgreatest : Magnitude.nearestBits (tenTo 400) 1 = infinityBits := by decide +kernel
      have hle : Magnitude.nearestBits (tenTo 400) 1 ≤ Magnitude.nearestBits d.toRatio.1 d.toRatio.2 := by
        refine nearestBits_le_nearestBits Nat.one_pos d.toRatio_pos ?_
        rw [Nat.mul_one]
        exact great_of_scale hne hgreat
      rw [hgreatest] at hle
      exact Nat.le_antisymm hle (Nat.min_le_right _ _)
    · rfl

theorem nearestBits_le_infinityBits (d : Digits) : d.nearestBits ≤ infinityBits := by
  rw [nearestBits_eq_ratio]
  exact Nat.min_le_right _ _

theorem nearestBits_le_of_le (h : Le d d') : d.nearestBits ≤ d'.nearestBits := by
  rw [nearestBits_eq_ratio, nearestBits_eq_ratio]
  exact nearestBits_le_nearestBits d.toRatio_pos d'.toRatio_pos h

end

/-! ### Significant digits -/

/-- The number by whose length the scale is told. -/
def scaled (x : Magnitude) : Nat := x.units * tenTo 400 / unitsPerOne

/-- So many digits of a magnitude before a carry into a new leading digit. -/
def uncarried (x : Magnitude) (count : Nat) : Digits :=
  let exponent := x.decimalScale - count
  ⟨roundDiv (steps x exponent).1 (steps x exponent).2, exponent⟩

section

-- the number is never to be written out
attribute [local irreducible] unitsPerOne

variable {x y : Magnitude}

theorem digits_uncarried (x : Magnitude) (count : Nat) : (uncarried x count).digits =
    roundDiv (steps x (x.decimalScale - count)).1 (steps x (x.decimalScale - count)).2 := by
  simp only [uncarried]

theorem significant_eq (x : Magnitude) (count : Nat) : significant x count =
    if (uncarried x count).digits = tenTo count then ⟨tenTo (count - 1), (uncarried x count).exponent + 1⟩
    else uncarried x count := rfl

theorem decimalScale_eq (x : Magnitude) : x.decimalScale = (numeral (scaled x)).length - 400 := rfl

theorem scaled_pos (h : x.units ≠ 0) : 0 < scaled x := by
  have hone : unitsPerOne ≤ 1 * tenTo 400 := by decide +kernel
  refine Nat.div_pos (Nat.le_trans hone ?_) unitsPerOne_pos
  exact Nat.mul_le_mul_right _ (Nat.pos_of_ne_zero h)

theorem decimalScale_le (h : x.units ≤ y.units) : x.decimalScale ≤ y.decimalScale := by
  have hscaled : scaled x ≤ scaled y := Nat.div_le_div_right (Nat.mul_le_mul_right _ h)
  have hlength : (numeral (scaled x)).length ≤ (numeral (scaled y)).length :=
    (Nat.length_toDigits_le_iff (by decide) Nat.length_toDigits_pos).mpr
      (Nat.lt_of_le_of_lt hscaled (lt_tenTo_length (scaled y)))
  rw [decimalScale_eq, decimalScale_eq]
  omega

theorem steps_pos (x : Magnitude) (exponent : Int) : 0 < (steps x exponent).2 :=
  Nat.mul_pos unitsPerOne_pos (tenTo_pos _)

theorem steps_num (x : Magnitude) (exponent : Int) :
    (steps x exponent).1 * tenTo 400 = x.units * tenTo 400 * tenTo (-exponent).toNat :=
  Nat.mul_right_comm _ _ _

/-- A power of ten in steps is a power of ten. -/
theorem steps_den (x : Magnitude) (count power : Nat) {exponent : Int}
    (h : (power : Int) - 400 - count = exponent) :
    tenTo count * (steps x exponent).2 * tenTo 400 = tenTo power * unitsPerOne * tenTo (-exponent).toNat := by
  have hpowers : tenTo power * tenTo (-exponent).toNat = tenTo count * tenTo exponent.toNat * tenTo 400 := by
    rw [← tenTo_add, ← tenTo_add, ← tenTo_add]
    exact congrArg tenTo (by omega)
  rw [Nat.mul_right_comm (tenTo power), hpowers]
  show tenTo count * (unitsPerOne * tenTo exponent.toNat) * tenTo 400 = _
  rw [← Nat.mul_assoc, Nat.mul_right_comm (tenTo count), Nat.mul_right_comm _ unitsPerOne]

/-- A magnitude is below the power of ten of its scale. -/
theorem steps_lt (x : Magnitude) (count : Nat) :
    (steps x (x.decimalScale - count)).1 < tenTo count * (steps x (x.decimalScale - count)).2 := by
  have hbelow : x.units * tenTo 400 < tenTo (numeral (scaled x)).length * unitsPerOne :=
    (Nat.div_lt_iff_lt_mul unitsPerOne_pos).mp (lt_tenTo_length (scaled x))
  apply Nat.lt_of_mul_lt_mul_right (a := tenTo 400)
  rw [steps_num, steps_den x count (numeral (scaled x)).length (by rw [decimalScale_eq])]
  exact Nat.mul_lt_mul_of_pos_right hbelow (tenTo_pos _)

/-- A magnitude is not below the power of ten before that of its scale. -/
theorem tenTo_le_steps (h : x.units ≠ 0) (count : Nat) :
    tenTo count * (steps x (x.decimalScale - (count + 1 : Nat))).2 ≤ (steps x (x.decimalScale - (count + 1 : Nat))).1 := by
  have hlength : 0 < (numeral (scaled x)).length := Nat.length_toDigits_pos
  have habove : tenTo ((numeral (scaled x)).length - 1) * unitsPerOne ≤ x.units * tenTo 400 :=
    (Nat.le_div_iff_mul_le unitsPerOne_pos).mp (tenTo_length_le (Nat.ne_of_gt (scaled_pos h)))
  have hpower : (((numeral (scaled x)).length - 1 : Nat) : Int) - 400 - count =
      x.decimalScale - (count + 1 : Nat) := by
    rw [decimalScale_eq]
    omega
  apply Nat.le_of_mul_le_mul_right _ (tenTo_pos 400)
  rw [steps_num, steps_den x count _ hpower]
  exact Nat.mul_le_mul_right _ habove

/-- A greater magnitude is rounded to as many steps of a scale or to more. -/
theorem roundDiv_steps_le (h : x.units ≤ y.units) (exponent : Int) :
    roundDiv (steps x exponent).1 (steps x exponent).2 ≤ roundDiv (steps y exponent).1 (steps y exponent).2 := by
  apply roundDiv_le_roundDiv (steps_pos _ _) (steps_pos _ _)
  exact Nat.mul_le_mul_right _ (Nat.mul_le_mul_right _ h)

theorem uncarried_le (x : Magnitude) (count : Nat) : (uncarried x count).digits ≤ tenTo count := by
  rw [digits_uncarried]
  exact roundDiv_le (steps_pos _ _) (Nat.le_of_lt (steps_lt x count))

theorem le_uncarried (h : x.units ≠ 0) (count : Nat) : tenTo count ≤ (uncarried x (count + 1)).digits := by
  rw [digits_uncarried]
  exact le_roundDiv (steps_pos _ _) (tenTo_le_steps h count)

/-- A power of ten that bounds a scale is so many steps of that scale. -/
theorem same_tenTo (x : Magnitude) (count : Nat) :
    Same ⟨tenTo count, x.decimalScale - count⟩ ⟨1, x.decimalScale⟩ := by
  have hsame := same_of_zeros 1 count (x.decimalScale - count)
  rwa [Nat.one_mul, Int.sub_add_cancel] at hsame

theorem same_tenTo_pred (x : Magnitude) (count : Nat) :
    Same ⟨tenTo count, x.decimalScale - (count + 1 : Nat)⟩ ⟨1, x.decimalScale - 1⟩ := by
  have hsame := same_of_zeros 1 count (x.decimalScale - (count + 1 : Nat))
  have hexponent : x.decimalScale - (count + 1 : Nat) + count = x.decimalScale - 1 := by omega
  rwa [Nat.one_mul, hexponent] at hsame

theorem uncarried_le_tenTo (x : Magnitude) (count : Nat) : Le (uncarried x count) ⟨1, x.decimalScale⟩ :=
  (le_of_digits (uncarried_le x count) _).trans (same_tenTo x count).le

theorem tenTo_le_uncarried (h : x.units ≠ 0) (count : Nat) :
    Le ⟨1, x.decimalScale - 1⟩ (uncarried x (count + 1)) :=
  (same_tenTo_pred x count).symm.le.trans (le_of_digits (le_uncarried h count) _)

theorem same_uncarried (x : Magnitude) (count : Nat) : Same (uncarried x (count + 1)) (significant x (count + 1)) := by
  rw [significant_eq]
  split
  · rename_i hcarry
    have hzero := same_of_zeros (tenTo count) 1 (uncarried x (count + 1)).exponent
    rw [← tenTo_add, ← hcarry] at hzero
    exact hzero
  · exact rfl

/-- A greater magnitude has greater or equal significant digits. -/
theorem significant_le (h : x.units ≤ y.units) (count : Nat) :
    Le (significant x (count + 1)) (significant y (count + 1)) := by
  refine (same_uncarried x count).symm.le.trans (Le.trans ?_ (same_uncarried y count).le)
  by_cases hscale : x.decimalScale = y.decimalScale
  · rw [uncarried, uncarried, ← hscale]
    exact le_of_digits (roundDiv_steps_le h _) _
  · have hless : x.decimalScale < y.decimalScale := by
      have := decimalScale_le h
      omega
    have hne : y.units ≠ 0 := by
      intro hzero
      have := decimalScale_le (show y.units ≤ x.units by omega)
      omega
    have hpowers : Le ⟨1, x.decimalScale⟩ ⟨1, y.decimalScale - 1⟩ := le_of_exponent (by omega)
    exact (uncarried_le_tenTo x _).trans (hpowers.trans (tenTo_le_uncarried hne count))

/-- A value with greater bits is rounded to one with greater or equal bits. -/
theorem nearestBits_significant_le {bits bits' : Nat} (h : bits ≤ bits') (h' : bits' < infinityBits) (count : Nat) :
    (significant (.ofBits bits) (count + 1)).nearestBits ≤ (significant (.ofBits bits') (count + 1)).nearestBits := by
  have hbits : (ofBits bits).bits ≤ (ofBits bits').bits := by
    rwa [bits_ofBits (Nat.lt_of_le_of_lt h h'), bits_ofBits h']
  have hunits := units_le_units (isCanonical_ofBits bits) (isCanonical_ofBits bits') hbits
  exact nearestBits_le_of_le (significant_le hunits count)

end

end Digits

end SciCalc.Decimal
