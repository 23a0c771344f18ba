import SciCalc.Proofs.RoundingOrder

/-!
# Great numbers

A decimal is read as infinity from the middle between the greatest finite value and the next power of two on.
-/

namespace SciCalc.Decimal

namespace Magnitude

/-- The greatest finite magnitude. -/
def greatest : Magnitude := ⟨twoTo 53 - 1, 2045⟩

/-- The middle between the greatest finite magnitude and the power of two behind it. -/
def infiniteFrom : Nat := twoTo 1024 - twoTo 970

theorem middle_greatest : 4 * greatest.units + 2 * twoTo greatest.shift = 4 * (infiniteFrom * unitsPerOne) := by
  decide +kernel

theorem bits_greatest_lt : greatest.bits < infinityBits := by decide

section

variable {num den : Nat}

theorem isNear_greatest (hden : 0 < den) (hlow : greatest.units * den < num * unitsPerOne)
    (hhigh : num < infiniteFrom * den) : greatest.IsNear (num * unitsPerOne) den := by
  have hbelow (gap : Nat) : (4 * greatest.units - gap) * den < 4 * (num * unitsPerOne) := by
    refine Nat.lt_of_le_of_lt (Nat.mul_le_mul_right den (Nat.sub_le _ _)) ?_
    rw [Nat.mul_assoc]
    exact Nat.mul_lt_mul_of_pos_left hlow (by decide)
  have habove : 4 * (num * unitsPerOne) < (4 * greatest.units + 2 * twoTo greatest.shift) * den := by
    rw [middle_greatest, Nat.mul_assoc, Nat.mul_right_comm]
    exact Nat.mul_lt_mul_of_pos_left (Nat.mul_lt_mul_of_pos_right hhigh (twoTo_pos 1074)) (by decide)
  exact ⟨hden, Nat.le_of_lt (hbelow _), Nat.le_of_lt habove, fun h => absurd h (Nat.ne_of_lt (hbelow _)),
    fun h => absurd h (Nat.ne_of_lt habove)⟩

/-- A quotient is rounded to infinity from the middle behind the greatest finite magnitude on. -/
theorem nearestBits_lt_infinityBits_iff (hden : 0 < den) :
    nearestBits num den < infinityBits ↔ num < infiniteFrom * den := by
  constructor
  · intro hfinite
    have hmiddle : nearestBits infiniteFrom 1 = infinityBits := by decide +kernel
    rcases Nat.lt_or_ge num (infiniteFrom * den) with hless | hge
    · exact hless
    · have hle : nearestBits infiniteFrom 1 ≤ nearestBits num den :=
        nearestBits_le_nearestBits Nat.one_pos hden (by rwa [Nat.mul_one])
      omega
  · intro hless
    rcases Nat.lt_or_ge (greatest.units * den) (num * unitsPerOne) with hbetween | hbelow
    · have hcanonical : greatest.IsCanonical := ⟨by decide, fun _ => by decide⟩
      rw [(isNear_greatest hden hbetween hless).nearestBits hcanonical bits_greatest_lt]
      exact bits_greatest_lt
    · have hgreatest : nearestBits greatest.units unitsPerOne < infinityBits := by decide +kernel
      have hle := nearestBits_le_nearestBits hden (twoTo_pos 1074) hbelow
      exact Nat.lt_of_le_of_lt hle hgreatest

end

end Magnitude

/-- What great numbers are read as. -/
def infinity : Float := ofSignAndBits false Magnitude.infinityBits

/-- The decimal is so great that it is read as infinity. -/
def Digits.IsGreat (d : Digits) : Prop := Magnitude.infiniteFrom * d.toRatio.2 ≤ d.toRatio.1

instance (d : Digits) : Decidable d.IsGreat := inferInstanceAs (Decidable (_ ≤ _))

theorem Digits.nearestBits_lt_iff (d : Digits) : d.nearestBits < Magnitude.infinityBits ↔ ¬d.IsGreat := by
  rw [Digits.nearestBits_eq_ratio, Magnitude.nearestBits_lt_infinityBits_iff d.toRatio_pos, IsGreat, Nat.not_le]

end SciCalc.Decimal
