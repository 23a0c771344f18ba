import SciCalc.Proofs.RoundingOrder

/-!
# Rounding twice

A magnitude is rounded to significant digits, and the digits are read as the nearest magnitude. What comes out is left
as it is when it is rounded so again, although the digits may be written on a coarser or on a finer grid than the
magnitudes, and both grids change at the powers of their bases.
-/

namespace SciCalc.Decimal

/-- A rounded quotient is as near to the quotient as any smaller integer. -/
theorem add_roundDiv_le {num den n : Nat} (hden : 0 < den) (h : n < roundDiv num den) :
    (n + roundDiv num den) * den ≤ 2 * num := by
  obtain ⟨hlow, -, -⟩ := roundDiv_spec num hden
  have hstep : (n + 1) * den ≤ roundDiv num den * den := Nat.mul_le_mul_right den h
  rw [Nat.succ_mul n] at hstep
  rw [Nat.add_mul]
  omega

/-- A rounded quotient is as near to the quotient as any greater integer. -/
theorem le_add_roundDiv {num den n : Nat} (hden : 0 < den) (h : roundDiv num den < n) :
    2 * num ≤ (n + roundDiv num den) * den := by
  obtain ⟨-, hhigh, -⟩ := roundDiv_spec num hden
  have hstep : (roundDiv num den + 1) * den ≤ n * den := Nat.mul_le_mul_right den h
  rw [Nat.succ_mul (roundDiv num den)] at hstep
  rw [Nat.add_mul]
  omega

namespace Magnitude

/-- A magnitude is given by its bits. -/
theorem ofBits_bits {x : Magnitude} (hx : x.IsCanonical) (h : x.bits < infinityBits) : ofBits x.bits = x := by
  obtain ⟨significand, shift⟩ := x
  have h52 : twoTo 52 = 4503599627370496 := rfl
  have h53 : twoTo 53 = 9007199254740992 := rfl
  have h11 : twoTo 11 = 2048 := rfl
  have hinf : infinityBits = 9218868437227405312 := rfl
  have hbelow : significand < twoTo 53 := hx.below
  have habove : shift ≠ 0 → twoTo 52 ≤ significand := hx.above
  simp only [bits] at h ⊢
  simp only [ofBits]
  rw [h52, hinf] at h
  rw [h52] at habove ⊢
  rw [h53] at hbelow
  rw [h11]
  by_cases hshort : significand < 4503599627370496
  · obtain rfl : shift = 0 := by omega
    rw [if_pos (by omega)]
    congr 1
    omega
  · rw [if_neg (by omega)]
    congr 1 <;> omega

/-- A quotient that is at most half a gap away is near, below a power of two at most a quarter of it. -/
theorem isNear_of_bounds {x : Magnitude} {num den step : Nat} (hden : 0 < den) (hstep : step = twoTo x.shift * den)
    (hlow : 2 * (x.significand * step) ≤ 2 * num + step) (hhigh : 2 * num ≤ 2 * (x.significand * step) + step)
    (htie : 2 * (x.significand * step) = 2 * num + step ∨ 2 * num = 2 * (x.significand * step) + step →
      x.significand % 2 = 0)
    (hnarrow : x.narrowBelow = true → 4 * (x.significand * step) ≤ 4 * num + step) : x.IsNear num den := by
  have hunits : x.units * den = x.significand * step := by
    rw [hstep, units, Nat.mul_assoc]
  have habove : (4 * x.units + 2 * twoTo x.shift) * den = 4 * (x.significand * step) + 2 * step := by
    rw [Nat.add_mul, Nat.mul_assoc, Nat.mul_assoc, hunits, ← hstep]
  cases hnarrowBelow : x.narrowBelow with
  | true =>
    have hbelow : (4 * x.units - if x.narrowBelow then twoTo x.shift else 2 * twoTo x.shift) * den =
        4 * (x.significand * step) - step := by
      rw [hnarrowBelow, if_pos rfl, Nat.sub_mul, Nat.mul_assoc, hunits, ← hstep]
    have heven : x.significand % 2 = 0 := by
      simp only [narrowBelow, Bool.and_eq_true, beq_iff_eq] at hnarrowBelow
      rw [hnarrowBelow.1]
      decide
    have hquarter := hnarrow hnarrowBelow
    refine ⟨hden, ?_, ?_, fun _ => heven, fun _ => heven⟩
    · rw [hbelow]
      omega
    · rw [habove]
      omega
  | false =>
    have hbelow : (4 * x.units - if x.narrowBelow then twoTo x.shift else 2 * twoTo x.shift) * den =
        4 * (x.significand * step) - 2 * step := by
      rw [hnarrowBelow, if_neg Bool.false_ne_true, Nat.sub_mul, Nat.mul_assoc, Nat.mul_assoc, hunits, ← hstep]
    refine ⟨hden, ?_, ?_, ?_, ?_⟩
    · rw [hbelow]
      omega
    · rw [habove]
      omega
    · rw [hbelow]
      intro hend
      by_cases hzero : x.significand = 0
      · rw [hzero]
      · have hpos : step ≤ x.significand * step := Nat.le_mul_of_pos_left step (Nat.pos_of_ne_zero hzero)
        exact htie (Or.inl (by omega))
    · rw [habove]
      intro hend
      exact htie (Or.inr (by omega))

section

variable {units den shift : Nat}

/-- A number of units is near to what it is rounded to on a grid that it does not fall below. -/
theorem isNear_within (hden : 0 < den) (habove : shift ≠ 0 → twoTo 52 * (den * twoTo shift) ≤ units) :
    (⟨roundDiv units (den * twoTo shift), shift⟩ : Magnitude).IsNear units den := by
  have hpos : 0 < den * twoTo shift := Nat.mul_pos hden (twoTo_pos shift)
  obtain ⟨hlow, hhigh, htie⟩ := roundDiv_spec units hpos
  apply isNear_of_bounds hden (Nat.mul_comm den _) hlow hhigh htie
  intro hnarrow
  simp only [narrowBelow, Bool.and_eq_true, beq_iff_eq, bne_iff_ne] at hnarrow
  have hle := habove hnarrow.2
  rw [← hnarrow.1] at hle
  show 4 * (roundDiv units (den * twoTo shift) * (den * twoTo shift)) ≤ 4 * units + den * twoTo shift
  omega

/-- A number of units that is rounded up to the next power of two is near to it, where the next grid begins. -/
theorem isNear_carried (hden : 0 < den) (hcarry : roundDiv units (den * twoTo shift) = twoTo 53)
    (hbelow : units < twoTo 53 * (den * twoTo shift)) : (⟨twoTo 52, shift + 1⟩ : Magnitude).IsNear units den := by
  have hpos : 0 < den * twoTo shift := Nat.mul_pos hden (twoTo_pos shift)
  obtain ⟨hlow, hhigh, -⟩ := roundDiv_spec units hpos
  rw [hcarry] at hlow hhigh
  have hdouble : 2 * (den * twoTo shift) = twoTo (shift + 1) * den := by
    rw [twoTo_succ, Nat.mul_assoc, Nat.mul_comm den]
  have hsame : twoTo 52 * (2 * (den * twoTo shift)) = twoTo 53 * (den * twoTo shift) := by
    rw [twoTo_succ 52, Nat.mul_left_comm, Nat.mul_assoc]
  have heven : twoTo 52 % 2 = 0 := by decide
  apply isNear_of_bounds hden hdouble
  · show 2 * (twoTo 52 * (2 * (den * twoTo shift))) ≤ _
    omega
  · show _ ≤ 2 * (twoTo 52 * (2 * (den * twoTo shift))) + _
    omega
  · intro _
    exact heven
  · intro _
    show 4 * (twoTo 52 * (2 * (den * twoTo shift))) ≤ _
    omega

end

section

variable {num den : Nat}

/-- A quotient is near to the magnitude that it is rounded to. -/
theorem isNear_nearestBits (hden : 0 < den) (h : nearestBits num den < infinityBits) :
    (ofBits (nearestBits num den)).IsNear (num * unitsPerOne) den := by
  have hbelow := @lt_mul_of_excess (num * unitsPerOne) den hden
  have habove := @mul_le_of_excess (num * unitsPerOne) den hden
  have hgreatest := @roundDiv_le_of_excess (num * unitsPerOne) den hden
  have hleast := @le_roundDiv_of_excess (num * unitsPerOne) den hden
  rw [nearestBits_eq_min] at h ⊢
  generalize num * unitsPerOne = units at *
  generalize excess (units / den) = shift at *
  rw [Nat.min_eq_left (by omega)] at h ⊢
  rcases Nat.lt_or_eq_of_le hgreatest with hless | hcarry
  · have hnear := isNear_within hden habove
    have hcanonical : (⟨roundDiv units (den * twoTo shift), shift⟩ : Magnitude).IsCanonical := ⟨hless, hleast⟩
    have hsame := ofBits_bits hcanonical h
    rwa [← hsame] at hnear
  · have hnear := isNear_carried hden hcarry hbelow
    have hcanonical : (⟨twoTo 52, shift + 1⟩ : Magnitude).IsCanonical :=
      ⟨(by decide : twoTo 52 < twoTo 53), fun _ => Nat.le_refl _⟩
    have hbits : (⟨twoTo 52, shift + 1⟩ : Magnitude).bits = shift * twoTo 52 + twoTo 53 := by
      have h53 : twoTo 53 = 2 * twoTo 52 := twoTo_succ 52
      show (shift + 1) * twoTo 52 + twoTo 52 = _
      rw [Nat.succ_mul shift]
      omega
    rw [hcarry, ← hbits] at h ⊢
    rwa [ofBits_bits hcanonical h]

end

variable {x y : Magnitude}

/-- The bits of a magnitude are those nearest to its number of units. -/
theorem nearestBits_units (hx : x.IsCanonical) (h : x.bits < infinityBits) :
    nearestBits x.units unitsPerOne = x.bits := by
  have hgap := twoTo_pos x.shift
  have hself : x.IsNear x.units 1 := by
    apply isNear_of_bounds Nat.one_pos (Nat.mul_one (twoTo x.shift)).symm
    · exact Nat.le_add_right _ _
    · exact Nat.le_add_right _ _
    · show 2 * x.units = 2 * x.units + _ ∨ 2 * x.units = 2 * x.units + _ → _
      omega
    · intro _
      exact Nat.le_add_right _ _
  refine (hself.congr unitsPerOne_pos ?_).nearestBits hx h
  rw [Nat.mul_one]

/-- A magnitude with greater bits is at least one gap greater. -/
theorem units_add_gap_le (hx : x.IsCanonical) (hy : y.IsCanonical) (h : x.bits < y.bits) :
    x.units + twoTo x.shift ≤ y.units := by
  have hnext : x.units + twoTo x.shift = (x.significand + 1) * twoTo x.shift := (Nat.succ_mul _ _).symm
  rw [hnext]
  rcases Nat.lt_trichotomy x.shift y.shift with hless | heq | hmore
  · calc (x.significand + 1) * twoTo x.shift
        ≤ twoTo 53 * twoTo x.shift := Nat.mul_le_mul_right _ hx.below
      _ = twoTo (53 + x.shift) := (twoTo_add 53 x.shift).symm
      _ ≤ twoTo (52 + y.shift) := twoTo_le (by omega)
      _ = twoTo 52 * twoTo y.shift := twoTo_add 52 y.shift
      _ ≤ y.significand * twoTo y.shift :=
        Nat.mul_le_mul_right _ (hy.above (Nat.ne_of_gt (Nat.zero_lt_of_lt hless)))
  · rw [bits, bits, heq] at h
    rw [units, heq]
    exact Nat.mul_le_mul_right _ (Nat.lt_of_add_lt_add_left h)
  · exact absurd (hy.bits_lt_bits hx hmore) (Nat.lt_asymm h)

end Magnitude

namespace Digits

open Magnitude

attribute [local irreducible] unitsPerOne

section

variable {y : Magnitude} {exponent : Int} {n : Nat}

theorem nearestBits_mk (n : Nat) (exponent : Int) : (⟨n, exponent⟩ : Digits).nearestBits =
    Magnitude.nearestBits (n * tenTo exponent.toNat) (tenTo (-exponent).toNat) := by
  rw [nearestBits_eq_ratio, toRatio]

/-- So many steps in units. -/
theorem mul_steps (y : Magnitude) (exponent : Int) (n : Nat) :
    n * (steps y exponent).2 = n * tenTo exponent.toNat * unitsPerOne := by
  rw [Nat.mul_assoc, Nat.mul_comm (tenTo exponent.toNat), steps]

/-- So many steps are read as greater or equal bits if they are not below the magnitude. -/
theorem bits_le_nearestBits (hy : y.IsCanonical) (hfinite : y.bits < infinityBits)
    (h : (steps y exponent).1 ≤ n * (steps y exponent).2) : y.bits ≤ (⟨n, exponent⟩ : Digits).nearestBits := by
  rw [← nearestBits_units hy hfinite, nearestBits_mk]
  apply nearestBits_le_nearestBits unitsPerOne_pos (tenTo_pos _)
  rwa [← mul_steps y]

theorem nearestBits_le_bits (hy : y.IsCanonical) (hfinite : y.bits < infinityBits)
    (h : n * (steps y exponent).2 ≤ (steps y exponent).1) : (⟨n, exponent⟩ : Digits).nearestBits ≤ y.bits := by
  rw [← nearestBits_units hy hfinite, nearestBits_mk]
  apply nearestBits_le_nearestBits (tenTo_pos _) unitsPerOne_pos
  rwa [← mul_steps y]

/-- So many steps that are read as the magnitude are near to it. -/
theorem isNear_of_nearestBits (hy : y.IsCanonical) (hfinite : y.bits < infinityBits)
    (h : (⟨n, exponent⟩ : Digits).nearestBits = y.bits) :
    y.IsNear (n * (steps y exponent).2) (tenTo (-exponent).toNat) := by
  rw [nearestBits_mk] at h
  have hnear := isNear_nearestBits (tenTo_pos _) (h ▸ hfinite)
  rwa [h, ofBits_bits hy hfinite, ← mul_steps y] at hnear

theorem nearestBits_of_isNear (hy : y.IsCanonical) (hfinite : y.bits < infinityBits)
    (h : y.IsNear (n * (steps y exponent).2) (tenTo (-exponent).toNat)) :
    (⟨n, exponent⟩ : Digits).nearestBits = y.bits := by
  rw [nearestBits_mk]
  apply IsNear.nearestBits _ hy hfinite
  rwa [← mul_steps y]

/-- The steps of a magnitude in gaps. -/
theorem steps_eq_gaps (y : Magnitude) (exponent : Int) :
    (steps y exponent).1 = y.significand * (twoTo y.shift * tenTo (-exponent).toNat) :=
  Nat.mul_assoc _ _ _

/-- If fewer steps are read as the magnitude, so are those that are nearest to it. -/
theorem nearestBits_of_fewer (hy : y.IsCanonical) (hfinite : y.bits < infinityBits)
    (hless : n < roundDiv (steps y exponent).1 (steps y exponent).2)
    (h : (⟨n, exponent⟩ : Digits).nearestBits = y.bits) :
    (⟨roundDiv (steps y exponent).1 (steps y exponent).2, exponent⟩ : Digits).nearestBits = y.bits := by
  have hden := steps_pos y exponent
  obtain ⟨-, hlow, -, htie, hnarrow⟩ := (isNear_of_nearestBits hy hfinite h).bounds rfl rfl
  have hreflected := add_roundDiv_le hden hless
  have hmore := Nat.mul_lt_mul_of_pos_right hless hden
  rw [← steps_eq_gaps] at hlow htie hnarrow
  rw [Nat.add_mul] at hreflected
  apply nearestBits_of_isNear hy hfinite
  apply isNear_of_bounds (tenTo_pos _) rfl
  · rw [← steps_eq_gaps]
    omega
  · rw [← steps_eq_gaps]
    omega
  · -- if the nearest steps are half a gap above, then the fewer ones are half a gap below
    rw [← steps_eq_gaps]
    intro hend
    exact htie (Or.inl (by omega))
  · rw [← steps_eq_gaps]
    intro hpower
    have := hnarrow hpower
    omega

/-- If more steps are read as the magnitude, so are those that are nearest to it, unless the gap below is narrow. -/
theorem nearestBits_of_more (hy : y.IsCanonical) (hfinite : y.bits < infinityBits) (hwide : y.narrowBelow = false)
    (hless : roundDiv (steps y exponent).1 (steps y exponent).2 < n)
    (h : (⟨n, exponent⟩ : Digits).nearestBits = y.bits) :
    (⟨roundDiv (steps y exponent).1 (steps y exponent).2, exponent⟩ : Digits).nearestBits = y.bits := by
  have hden := steps_pos y exponent
  obtain ⟨-, -, hhigh, htie, -⟩ := (isNear_of_nearestBits hy hfinite h).bounds rfl rfl
  have hreflected := le_add_roundDiv hden hless
  have hmore := Nat.mul_lt_mul_of_pos_right hless hden
  rw [← steps_eq_gaps] at hhigh htie
  rw [Nat.add_mul] at hreflected
  apply nearestBits_of_isNear hy hfinite
  apply isNear_of_bounds (tenTo_pos _) rfl
  · rw [← steps_eq_gaps]
    omega
  · rw [← steps_eq_gaps]
    omega
  · rw [← steps_eq_gaps]
    intro hend
    exact htie (Or.inr (by omega))
  · intro hpower
    rw [hwide] at hpower
    contradiction

end

/-! ### Powers of two -/

/-- The grid of magnitudes around a power of ten; `217706 / 65536` is a little less than the logarithm of ten. -/
def grid (exponent : Int) : Nat := (exponent * 217706 / 65536 + 1022).toNat

/-- A power of ten other than one is nowhere near to a power of two: it stands clear of the least magnitude of its own
grid and of that of the next grid. -/
theorem tenTo_between {exponent : Int} (hlow : -400 ≤ exponent) (hhigh : exponent < 400) (hne : exponent ≠ 0) :
    (grid exponent ≠ 0 → (twoTo 53 + 1) * (twoTo (grid exponent) * tenTo (-exponent).toNat) <
      2 * (tenTo exponent.toNat * unitsPerOne)) ∧
    4 * (tenTo exponent.toNat * unitsPerOne) <
      (twoTo 54 - 1) * (twoTo (grid exponent + 1) * tenTo (-exponent).toNat) := by
  have hall : ∀ power : Nat, power < 800 → (power : Int) - 400 ≠ 0 →
      (grid (power - 400) ≠ 0 → (twoTo 53 + 1) * (twoTo (grid (power - 400)) * tenTo (-((power : Int) - 400)).toNat) <
        2 * (tenTo ((power : Int) - 400).toNat * unitsPerOne)) ∧
      4 * (tenTo ((power : Int) - 400).toNat * unitsPerOne) <
        (twoTo 54 - 1) * (twoTo (grid (power - 400) + 1) * tenTo (-((power : Int) - 400)).toNat) := by
    decide +kernel
  have hcast : ((exponent + 400).toNat : Int) - 400 = exponent := by omega
  have hpower := hall (exponent + 400).toNat (by omega)
  rw [hcast] at hpower
  exact hpower hne

/-- Only one is both a power of ten and read as a power of two with a finer grid below. -/
theorem not_isNear_tenTo {y : Magnitude} {exponent : Int} (hlow : -400 ≤ exponent) (hhigh : exponent < 400)
    (hne : exponent ≠ 0) (hnarrow : y.narrowBelow = true) :
    ¬y.IsNear (tenTo exponent.toNat * unitsPerOne) (tenTo (-exponent).toNat) := by
  intro hnear
  obtain ⟨hleast, hbetween⟩ := tenTo_between hlow hhigh hne
  obtain ⟨hpos, -, habove, -, hbelow⟩ := hnear.bounds rfl rfl
  have hbelow := hbelow hnarrow
  simp only [narrowBelow, Bool.and_eq_true, beq_iff_eq, bne_iff_ne] at hnarrow
  obtain ⟨hpower, hshift⟩ := hnarrow
  rw [hpower] at habove hbelow
  have h52 : twoTo 52 = 4503599627370496 := rfl
  have h53 : twoTo 53 = 9007199254740992 := rfl
  have h54 : twoTo 54 - 1 = 18014398509481983 := rfl
  rw [h52] at habove hbelow
  rw [h53] at hleast
  rw [h54] at hbetween
  rcases Nat.lt_or_ge (grid exponent) y.shift with hless | hge
  · have hgrid : twoTo (grid exponent + 1) * tenTo (-exponent).toNat ≤ twoTo y.shift * tenTo (-exponent).toNat :=
      Nat.mul_le_mul_right _ (twoTo_le hless)
    omega
  · have hgrid : twoTo y.shift * tenTo (-exponent).toNat ≤ twoTo (grid exponent) * tenTo (-exponent).toNat :=
      Nat.mul_le_mul_right _ (twoTo_le hge)
    have hleast := hleast (by omega)
    omega

/-! ### Significant digits -/

theorem Same.nearestBits_eq {d d' : Digits} (h : Same d d') : d.nearestBits = d'.nearestBits :=
  Nat.le_antisymm (nearestBits_le_of_le h.le) (nearestBits_le_of_le h.symm.le)

theorem nearestBits_uncarried (x : Magnitude) (count : Nat) :
    (significant x (count + 1)).nearestBits = (uncarried x (count + 1)).nearestBits :=
  (same_uncarried x count).symm.nearestBits_eq

section

variable {x y : Magnitude} {count : Nat}

/-- On one decimal grid a greater magnitude is not rounded to more steps that are near to the lesser one. The steps would
be as wide as the gaps, and the lesser magnitude, a whole number of gaps, in the middle between two steps. -/
theorem roundDiv_le_of_isNear {exponent : Int} (hgap : y.units + twoTo y.shift ≤ x.units)
    (hnear : y.IsNear (roundDiv (steps x exponent).1 (steps x exponent).2 * (steps y exponent).2)
      (tenTo (-exponent).toNat)) :
    roundDiv (steps x exponent).1 (steps x exponent).2 ≤ roundDiv (steps y exponent).1 (steps y exponent).2 := by
  have hden := steps_pos y exponent
  have hsame : (steps x exponent).2 = (steps y exponent).2 := rfl
  obtain ⟨-, -, hhigh, -, -⟩ := hnear.bounds rfl rfl
  rw [← steps_eq_gaps] at hhigh
  apply Nat.not_lt.mp
  intro hless
  have hsteps := Nat.mul_le_mul_right (tenTo (-exponent).toNat) hgap
  rw [Nat.add_mul] at hsteps
  change (steps y exponent).1 + _ ≤ (steps x exponent).1 at hsteps
  obtain ⟨-, hround, -⟩ := roundDiv_spec (steps x exponent).1 (steps_pos x exponent)
  obtain ⟨-, hround', -⟩ := roundDiv_spec (steps y exponent).1 hden
  have hmiddle := le_add_roundDiv hden hless
  have hstep := Nat.mul_le_mul_right (steps y exponent).2 hless
  have hgaps := steps_eq_gaps y exponent
  rw [Nat.succ_mul (roundDiv (steps y exponent).1 (steps y exponent).2)] at hstep
  rw [Nat.add_mul] at hmiddle
  rw [hsame] at hround hhigh hmiddle hstep
  generalize (steps y exponent).2 = den at *
  generalize (steps y exponent).1 = num at *
  generalize roundDiv num den = digits at *
  generalize roundDiv (steps x exponent).1 den = digits' at *
  generalize twoTo y.shift * tenTo (-exponent).toNat = step at *
  -- the steps are at most half a gap and at least half a step above the lesser magnitude, and the greater one is at most
  -- half a step above them: gaps and steps are as wide as each other
  obtain rfl : step = den := by omega
  have hhalf : 2 * (y.significand * step) = 2 * (digits * step) + step := by omega
  have hodd : (2 * y.significand) * step = (2 * digits + 1) * step := by
    rw [Nat.succ_mul (2 * digits), Nat.mul_assoc, Nat.mul_assoc]
    exact hhalf
  have := Nat.eq_of_mul_eq_mul_right hden hodd
  omega

theorem uncarried_eq (x : Magnitude) (count : Nat) : uncarried x count =
    ⟨roundDiv (steps x (x.decimalScale - count)).1 (steps x (x.decimalScale - count)).2, x.decimalScale - count⟩ := rfl

/-- What a lesser magnitude is rounded to is rounded to itself. -/
theorem nearestBits_of_rounded_up (hy : y.IsCanonical) (hfinite : y.bits < infinityBits) (hne : y.units ≠ 0)
    (hunits : x.units ≤ y.units) (h : (uncarried x (count + 1)).nearestBits = y.bits) :
    (uncarried y (count + 1)).nearestBits = y.bits := by
  obtain ⟨n, hle, hn⟩ : ∃ n, n ≤ (uncarried y (count + 1)).digits ∧
      (⟨n, y.decimalScale - (count + 1 : Nat)⟩ : Digits).nearestBits = y.bits := by
    rcases Int.lt_or_eq_of_le (decimalScale_le hunits) with hless | hsame
    · refine ⟨tenTo count, le_uncarried hne count, Nat.le_antisymm ?_ ?_⟩
      · exact nearestBits_le_bits hy hfinite (tenTo_le_steps hne count)
      · rw [← h]
        apply nearestBits_le_of_le
        have hpower : Le ⟨1, x.decimalScale⟩ ⟨1, y.decimalScale - 1⟩ := le_of_exponent (by omega)
        exact (uncarried_le_tenTo x _).trans (hpower.trans (same_tenTo_pred y count).symm.le)
    · refine ⟨(uncarried x (count + 1)).digits, ?_, ?_⟩
      · rw [digits_uncarried, digits_uncarried, hsame]
        exact roundDiv_steps_le hunits _
      · rw [← hsame]
        exact h
  rcases Nat.lt_or_eq_of_le hle with hless | rfl
  · exact nearestBits_of_fewer hy hfinite hless hn
  · exact hn

theorem lt_of_nearestBits_tenTo {exponent : Int} (h : (⟨1, exponent⟩ : Digits).nearestBits < infinityBits) :
    exponent < 400 := by
  apply Int.not_le.mp
  intro hgreat
  have hlength : ((numeral 1).length : Int) = 1 := rfl
  have hinfinite : (⟨1, exponent⟩ : Digits).nearestBits = infinityBits := by
    simp only [nearestBits, hlength]
    rw [if_neg, if_pos]
    · omega
    · simp only [Bool.or_eq_true, decide_eq_true_eq]
      omega
  omega

/-- A magnitude that the power of ten above it is read as is no power of two with a finer grid below. -/
theorem wide_of_nearestBits_tenTo (hy : y.IsCanonical) (hfinite : y.bits < infinityBits)
    (h : (⟨1, y.decimalScale⟩ : Digits).nearestBits = y.bits) : y.narrowBelow = false := by
  have hlow : -400 ≤ y.decimalScale := by
    rw [decimalScale_eq]
    omega
  have hhigh := lt_of_nearestBits_tenTo (h ▸ hfinite)
  by_cases hzero : y.decimalScale = 0
  · have hone : (⟨1, 0⟩ : Digits).nearestBits = 1023 * twoTo 52 := by decide +kernel
    have hunits : (ofBits (1023 * twoTo 52)).units = unitsPerOne := by decide +kernel
    have hlt := steps_lt y 0
    rw [hzero] at h hlt
    rw [hone] at h
    rw [h, ofBits_bits hy hfinite] at hunits
    have hsame : (steps y 0).1 = (steps y 0).2 := by
      rw [steps, hunits]
      rfl
    have hnone : tenTo 0 = 1 := rfl
    rw [hnone, Nat.one_mul] at hlt
    exact absurd hsame (Nat.ne_of_lt hlt)
  · apply Bool.eq_false_iff.mpr
    intro hnarrow
    have hnear := isNear_of_nearestBits hy hfinite h
    rw [mul_steps, Nat.one_mul] at hnear
    exact not_isNear_tenTo hlow hhigh hzero hnarrow hnear

/-- What a greater magnitude is rounded to is rounded to itself. -/
theorem nearestBits_of_rounded_down (hx : x.IsCanonical) (hy : y.IsCanonical) (hfinite : y.bits < infinityBits)
    (hbits : y.bits < x.bits) (h : (uncarried x (count + 1)).nearestBits = y.bits) :
    (uncarried y (count + 1)).nearestBits = y.bits := by
  have hgap := units_add_gap_le hy hx hbits
  have hunits : y.units ≤ x.units := Nat.le_trans (Nat.le_add_right _ _) hgap
  rcases Int.lt_or_eq_of_le (decimalScale_le hunits) with hless | hsame
  · have hne : x.units ≠ 0 := by
      have := twoTo_pos y.shift
      omega
    have hpower : (⟨tenTo (count + 1), y.decimalScale - (count + 1 : Nat)⟩ : Digits).nearestBits = y.bits := by
      apply Nat.le_antisymm
      · rw [← h]
        apply nearestBits_le_of_le
        have hle : Le ⟨1, y.decimalScale⟩ ⟨1, x.decimalScale - 1⟩ := le_of_exponent (by omega)
        exact (same_tenTo y _).le.trans (hle.trans (tenTo_le_uncarried hne count))
      · exact bits_le_nearestBits hy hfinite (Nat.le_of_lt (steps_lt y _))
    have hwide := wide_of_nearestBits_tenTo hy hfinite ((same_tenTo y _).nearestBits_eq.symm.trans hpower)
    rcases Nat.lt_or_eq_of_le (uncarried_le y (count + 1)) with hfewer | hcarry
    · exact nearestBits_of_more hy hfinite hwide hfewer hpower
    · rw [← hcarry] at hpower
      exact hpower
  · have hnear : y.IsNear ((uncarried x (count + 1)).digits * (steps y (y.decimalScale - (count + 1 : Nat))).2)
        (tenTo (-(y.decimalScale - (count + 1 : Nat))).toNat) := by
      apply isNear_of_nearestBits hy hfinite
      rw [hsame]
      exact h
    rw [digits_uncarried, ← hsame] at hnear
    have hle := roundDiv_le_of_isNear hgap hnear
    have hge := roundDiv_steps_le hunits (y.decimalScale - (count + 1 : Nat))
    have hrounded : uncarried y (count + 1) = uncarried x (count + 1) := by
      rw [uncarried_eq, uncarried_eq, ← hsame, Nat.le_antisymm hge hle]
    rw [hrounded]
    exact h

/-- Rounding to significant digits and reading them again leaves what it has come to as it is. -/
theorem nearestBits_significant_again {bits : Nat} (count : Nat)
    (hfinite : (significant (.ofBits bits) (count + 1)).nearestBits < infinityBits) :
    (significant (.ofBits (significant (.ofBits bits) (count + 1)).nearestBits) (count + 1)).nearestBits =
      (significant (.ofBits bits) (count + 1)).nearestBits := by
  obtain ⟨x, hx⟩ : ∃ x, x = ofBits bits := ⟨_, rfl⟩
  obtain ⟨y, hy⟩ : ∃ y, y = ofBits (significant x (count + 1)).nearestBits := ⟨_, rfl⟩
  rw [← hx] at hfinite ⊢
  rw [← hy]
  have hxc : x.IsCanonical := hx ▸ isCanonical_ofBits bits
  have hyc : y.IsCanonical := hy ▸ isCanonical_ofBits _
  have hrounded : (significant x (count + 1)).nearestBits = y.bits := by
    rw [hy, bits_ofBits hfinite]
  rw [hrounded] at hfinite ⊢
  rw [nearestBits_uncarried] at hrounded ⊢
  rcases Nat.lt_trichotomy x.bits y.bits with hless | heq | hmore
  · have hgap := units_add_gap_le hxc hyc hless
    have hunits : x.units ≤ y.units := Nat.le_trans (Nat.le_add_right _ _) hgap
    have hne : y.units ≠ 0 := by
      have := twoTo_pos x.shift
      omega
    exact nearestBits_of_rounded_up hyc hfinite hne hunits hrounded
  · have hsame : x = y := by
      rw [← ofBits_bits hyc hfinite, ← heq, ofBits_bits hxc]
      rw [heq]
      exact hfinite
    rwa [hsame] at hrounded
  · exact nearestBits_of_rounded_down hxc hyc hfinite hmore hrounded

end

end Digits

end SciCalc.Decimal
