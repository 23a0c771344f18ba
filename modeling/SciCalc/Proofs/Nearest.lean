import SciCalc.Decimal.Digits

/-!
# Values nearest to a quotient

A quotient between the midpoints around a magnitude is rounded to the bits of that magnitude. This is also so
below a power of two, where a quotient can lie in the finer grid of the magnitudes before it.
-/

namespace SciCalc.Decimal

theorem twoTo_add (m n : Nat) : twoTo (m + n) = twoTo m * twoTo n := Nat.pow_add 2 m n

theorem twoTo_pos (n : Nat) : 0 < twoTo n := Nat.pow_pos (by decide)

theorem twoTo_le {m n : Nat} (h : m ≤ n) : twoTo m ≤ twoTo n := Nat.pow_le_pow_right (by decide) h

theorem twoTo_succ (n : Nat) : twoTo (n + 1) = 2 * twoTo n := Nat.pow_succ'

/-- A quotient at most one half away from an integer is rounded to it, and with a distance of just one half
if the integer is even. -/
theorem roundDiv_eq {num den q : Nat} (hden : 0 < den) (hlow : 2 * (q * den) ≤ 2 * num + den)
    (hhigh : 2 * num ≤ 2 * (q * den) + den)
    (htie : 2 * (q * den) = 2 * num + den ∨ 2 * num = 2 * (q * den) + den → q % 2 = 0) :
    roundDiv num den = q := by
  have hsplit : den * (num / den) + num % den = num := Nat.div_add_mod num den
  have hrest : num % den < den := Nat.mod_lt num hden
  rw [Nat.mul_comm] at hsplit
  unfold roundDiv
  generalize num / den = quotient at hsplit ⊢
  generalize num % den = rest at hsplit hrest ⊢
  have hge : quotient ≤ q := by
    rcases Nat.lt_or_ge q quotient with h | h
    · have hmul : (q + 1) * den ≤ quotient * den := Nat.mul_le_mul_right den h
      rw [Nat.succ_mul q den] at hmul
      omega
    · exact h
  have hle : q ≤ quotient + 1 := by
    rcases Nat.lt_or_ge (quotient + 1) q with h | h
    · have hmul : (quotient + 1 + 1) * den ≤ q * den := Nat.mul_le_mul_right den h
      rw [Nat.succ_mul (quotient + 1) den, Nat.succ_mul quotient den] at hmul
      omega
    · exact h
  rcases (by omega : q = quotient ∨ q = quotient + 1) with rfl | rfl
  · have hhalf : 2 * rest ≤ den := by omega
    rcases Nat.lt_or_eq_of_le hhalf with h | h
    · simp only [Nat.compare_eq_lt.mpr h]
    · have heven : q % 2 = 0 := htie (Or.inr (by omega))
      simp only [Nat.compare_eq_eq.mpr h, if_pos heven]
  · rw [Nat.succ_mul quotient den] at hlow hhigh htie
    have hhalf : den ≤ 2 * rest := by omega
    rcases Nat.lt_or_eq_of_le hhalf with h | h
    · simp only [Nat.compare_eq_gt.mpr h]
    · have heven : (quotient + 1) % 2 = 0 := htie (Or.inl (by omega))
      have hodd : ¬quotient % 2 = 0 := by omega
      simp only [Nat.compare_eq_eq.mpr h.symm, if_neg hodd]

namespace Magnitude

/-- A significand of at most fifty-three bits, and of just so many unless the shift is zero. -/
structure IsCanonical (x : Magnitude) : Prop where
  below : x.significand < twoTo 53
  above : x.shift ≠ 0 → twoTo 52 ≤ x.significand

/-- The bits of a magnitude. -/
def bits (x : Magnitude) : Nat := x.shift * twoTo 52 + x.significand

theorem isCanonical_ofBits (bits : Nat) : (ofBits bits).IsCanonical := by
  have h52 : twoTo 52 = 4503599627370496 := rfl
  have h53 : twoTo 53 = 9007199254740992 := rfl
  have hfraction : bits % twoTo 52 < twoTo 52 := Nat.mod_lt _ (twoTo_pos 52)
  simp only [ofBits]
  split
  · exact ⟨by show bits % twoTo 52 < twoTo 53; omega, fun h => absurd rfl h⟩
  · exact ⟨by show twoTo 52 + bits % twoTo 52 < twoTo 53; omega,
      fun _ => Nat.le_add_right _ _⟩

theorem bits_ofBits {bits : Nat} (h : bits < infinityBits) : (ofBits bits).bits = bits := by
  have h52 : twoTo 52 = 4503599627370496 := rfl
  have h11 : twoTo 11 = 2048 := rfl
  have hinf : infinityBits = 9218868437227405312 := rfl
  simp only [ofBits, Magnitude.bits]
  rw [h52, h11]
  split
  · show 0 * 4503599627370496 + bits % 4503599627370496 = bits
    omega
  · show (bits / 4503599627370496 % 2048 - 1) * 4503599627370496 +
      (4503599627370496 + bits % 4503599627370496) = bits
    omega

/-- The bits of a higher grid are greater. -/
theorem IsCanonical.bits_lt_bits {x y : Magnitude} (hx : x.IsCanonical) (hy : y.IsCanonical)
    (h : x.shift < y.shift) : x.bits < y.bits := by
  have hbelow := hx.below
  have habove := hy.above (Nat.ne_of_gt (Nat.zero_lt_of_lt h))
  have hgrid : (x.shift + 1) * twoTo 52 ≤ y.shift * twoTo 52 := Nat.mul_le_mul_right _ h
  have h53 : twoTo 53 = 2 * twoTo 52 := twoTo_succ 52
  rw [Nat.succ_mul x.shift] at hgrid
  rw [bits, bits]
  omega

/-- The quotient `num / den`, in units, lies between the midpoints around the magnitude, on a midpoint only if
the significand is even. -/
structure IsNear (x : Magnitude) (num den : Nat) : Prop where
  pos : 0 < den
  low : (4 * x.units - if x.narrowBelow then twoTo x.shift else 2 * twoTo x.shift) * den ≤ 4 * num
  high : 4 * num ≤ (4 * x.units + 2 * twoTo x.shift) * den
  lowEnd : (4 * x.units - if x.narrowBelow then twoTo x.shift else 2 * twoTo x.shift) * den = 4 * num →
    x.significand % 2 = 0
  highEnd : 4 * num = (4 * x.units + 2 * twoTo x.shift) * den → x.significand % 2 = 0

variable {x : Magnitude} {num den : Nat}

/-- The bounds of a near quotient, in multiples of the gap. -/
theorem IsNear.bounds (h : x.IsNear num den) {step middle : Nat} (hstep : step = twoTo x.shift * den)
    (hmiddle : middle = x.significand * step) :
    0 < step ∧ 2 * middle ≤ 2 * num + step ∧ 2 * num ≤ 2 * middle + step ∧
      (2 * middle = 2 * num + step ∨ 2 * num = 2 * middle + step → x.significand % 2 = 0) ∧
      (x.narrowBelow = true → 4 * middle ≤ 4 * num + step) := by
  have hpos : 0 < step := hstep ▸ Nat.mul_pos (twoTo_pos x.shift) h.pos
  have hunits : x.units * den = middle := by
    rw [hmiddle, hstep, units, Nat.mul_assoc]
  have hhigh := h.high
  have hhighEnd := h.highEnd
  rw [Nat.add_mul, Nat.mul_assoc, Nat.mul_assoc, hunits, ← hstep] at hhigh hhighEnd
  have hlow := h.low
  have hlowEnd := h.lowEnd
  cases hnarrow : x.narrowBelow with
  | true =>
    rw [hnarrow, if_pos rfl, Nat.sub_mul, Nat.mul_assoc, hunits, ← hstep] at hlow
    refine ⟨hpos, by omega, by omega, ?_, fun _ => by omega⟩
    rintro (h | h)
    · omega
    · exact hhighEnd (by omega)
  | false =>
    rw [hnarrow, if_neg Bool.false_ne_true, Nat.sub_mul, Nat.mul_assoc, Nat.mul_assoc, hunits,
      ← hstep] at hlow hlowEnd
    refine ⟨hpos, by omega, by omega, ?_, fun h => absurd h Bool.false_ne_true⟩
    rintro (h | h)
    · exact hlowEnd (by omega)
    · exact hhighEnd (by omega)

/-- The excess of a number of units over fifty-three bits. -/
theorem excess_eq {units shift : Nat} (hlow : shift ≠ 0 → twoTo (52 + shift) ≤ units)
    (hhigh : units < twoTo (53 + shift)) : (if units = 0 then 0 else units.log2 - 52) = shift := by
  have hpos := twoTo_pos (52 + shift)
  by_cases hzero : units = 0
  · rw [if_pos hzero]
    by_cases hshift : shift = 0
    · exact hshift.symm
    · have := hlow hshift
      omega
  · rw [if_neg hzero]
    have hlt : units.log2 < 53 + shift := (Nat.log2_lt hzero).mpr hhigh
    by_cases hshift : shift = 0
    · omega
    · have hle : 52 + shift ≤ units.log2 := (Nat.le_log2 hzero).mpr (hlow hshift)
      omega

theorem nearestBits_eq {shift significand : Nat} (hden : 0 < den)
    (hlow : shift ≠ 0 → twoTo (52 + shift) * den ≤ num * unitsPerOne)
    (hhigh : num * unitsPerOne < twoTo (53 + shift) * den)
    (hround : roundDiv (num * unitsPerOne) (twoTo shift * den) = significand)
    (hbits : shift * twoTo 52 + significand < infinityBits) :
    nearestBits num den = shift * twoTo 52 + significand := by
  have hexcess := excess_eq (fun h => (Nat.le_div_iff_mul_le hden).mpr (hlow h))
    ((Nat.div_lt_iff_lt_mul hden).mpr hhigh)
  unfold nearestBits
  simp only [hexcess]
  rw [Nat.mul_comm den, hround]
  exact Nat.min_eq_left (Nat.le_of_lt hbits)

/-- A quotient near a finite magnitude has the bits of that magnitude. -/
theorem IsNear.nearestBits (h : x.IsNear (num * unitsPerOne) den) (hx : x.IsCanonical)
    (hbits : x.bits < infinityBits) : nearestBits num den = x.bits := by
  obtain ⟨hpos, hlow, hhigh, htie, hnarrow⟩ := h.bounds rfl rfl
  have h52 : twoTo 52 = 4503599627370496 := rfl
  have h53 : twoTo 53 = 9007199254740992 := rfl
  have hbelow := hx.below
  by_cases hgrid : x.shift = 0 ∨ twoTo 52 * (twoTo x.shift * den) ≤ num * unitsPerOne
  · refine nearestBits_eq h.pos ?_ ?_ (roundDiv_eq hpos hlow hhigh htie) hbits
    · intro hshift
      rw [twoTo_add, Nat.mul_assoc]
      exact hgrid.resolve_left hshift
    · have hle : (x.significand + 1) * (twoTo x.shift * den) ≤ twoTo 53 * (twoTo x.shift * den) :=
        Nat.mul_le_mul_right _ hbelow
      rw [Nat.succ_mul x.significand] at hle
      rw [twoTo_add, Nat.mul_assoc]
      omega
  · obtain ⟨hshift, hless⟩ : x.shift ≠ 0 ∧ num * unitsPerOne < twoTo 52 * (twoTo x.shift * den) := by
      omega
    have hleast : x.significand = twoTo 52 := by
      have habove := hx.above hshift
      rcases Nat.lt_or_eq_of_le habove with hlt | heq
      · have hle : (twoTo 52 + 1) * (twoTo x.shift * den) ≤ x.significand * (twoTo x.shift * den) :=
          Nat.mul_le_mul_right _ hlt
        rw [Nat.succ_mul (twoTo 52)] at hle
        omega
      · exact heq.symm
    have hbelow := hnarrow (by simp [narrowBelow, hleast, hshift])
    obtain ⟨shift, hsucc⟩ := Nat.exists_eq_succ_of_ne_zero hshift
    have hstep : twoTo x.shift * den = 2 * (twoTo shift * den) := by
      rw [hsucc, Nat.succ_eq_add_one, twoTo_succ, Nat.mul_assoc]
    have hhalf : 0 < twoTo shift * den := Nat.mul_pos (twoTo_pos shift) h.pos
    have hsame : x.bits = shift * twoTo 52 + twoTo 53 := by
      rw [Magnitude.bits, hleast, hsucc, Nat.succ_eq_add_one, Nat.succ_mul shift]
      omega
    rw [hleast, hstep, h52] at hbelow
    rw [hstep, h52] at hless
    rw [hsame] at hbits ⊢
    refine nearestBits_eq h.pos ?_ ?_ (roundDiv_eq hhalf ?_ ?_ fun _ => rfl) hbits
    · intro _
      rw [twoTo_add, Nat.mul_assoc, h52]
      omega
    · rw [twoTo_add, Nat.mul_assoc, h53]
      omega
    · rw [h53]
      omega
    · rw [h53]
      omega

end Magnitude

end SciCalc.Decimal
