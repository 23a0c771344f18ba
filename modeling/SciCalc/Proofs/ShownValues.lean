import SciCalc.Display
import SciCalc.Proofs.Attempt
import SciCalc.Proofs.FloatOrder
import SciCalc.Proofs.RoundingOrder

/-!
# Shown values

Whether a finite value can be shown depends on the value to which it is rounded: next to the greatest values there
may be none with so few digits, and infinity has no exponent.
-/

namespace SciCalc.Display

open Decimal

/-- The value is rounded to infinity. -/
def Overflows (precision : Int) (x : Float) : Prop :=
  ∃ value, rounded precision x = .ok value ∧ value.isInf = true

/-- The numbers of digits with which the greatest finite value is rounded up. -/
def overflowing : List Int := [1, 2, 3, 4, 5, 10, 11, 15, 16]

section

variable {bits count : Nat}

theorem orStandard_succ (count : Nat) :
    Settings.orStandard (count + 1 : Nat) Settings.standard.precision = (count + 1 : Nat) :=
  if_neg (by omega)

theorem digitCount_eq {count : Nat} (h : count ≤ 17) : digitCount count = .ok count := by
  have hlow : ¬(count : Int) < 0 := by omega
  have hreadable : ¬0x8000000000000000 ≤ (count : Int) := by omega
  have hbig : ¬0x80000000 ≤ (count : Int) := by omega
  have hmost : min (count : Int).toNat mostDigits = count := Nat.min_eq_left (Nat.le_trans h (by decide))
  rw [digitCount, if_neg hlow, if_neg hreadable, if_neg hbig, hmost]

/-- A finite value is rounded to the value nearest to its significant digits. -/
theorem rounded_eq (negative : Bool) (h : bits < Magnitude.infinityBits) (hcount : count ≤ 16) :
    rounded (count + 1 : Nat) (ofSignAndBits negative bits) = .ok (if bits = 0 then ofSignAndBits negative bits
      else (Digits.significant (.ofBits bits) (count + 1)).toFloat negative) := by
  simp only [rounded, beq_zero negative h, isFinite_signAndBits negative h, orStandard_succ,
    digitCount_eq (Nat.succ_le_succ hcount), magnitude_signAndBits negative h, isNegative_signAndBits negative h,
    Bool.not_true, Bool.or_false, decide_eq_true_iff]
  split <;> rfl

theorem isFinite_toFloat {digits : Digits} (h : digits.nearestBits ≠ Magnitude.infinityBits) (negative : Bool) :
    (digits.toFloat negative).isFinite = true :=
  isFinite_signAndBits negative (Nat.lt_of_le_of_ne digits.nearestBits_le_infinityBits h)

/-- Only values in the last binade are rounded to infinity. -/
theorem field_of_overflow (hcount : count ≤ 16)
    (hoverflow : (Digits.significant (.ofBits bits) (count + 1)).nearestBits = Magnitude.infinityBits) :
    2046 * twoTo 52 ≤ bits := by
  have hfirst : ∀ count < 17, (Digits.significant (.ofBits (2046 * twoTo 52)) (count + 1)).nearestBits <
      Magnitude.infinityBits := by decide +kernel
  rcases Nat.lt_or_ge bits (2046 * twoTo 52) with hless | hge
  · have hfinite : 2046 * twoTo 52 < Magnitude.infinityBits := by decide
    have hle := Digits.nearestBits_significant_le (Nat.le_of_lt hless) hfinite count
    have hlt := hfirst count (Nat.lt_succ_of_le hcount)
    omega
  · exact hge

theorem overflows_iff (negative : Bool) (h : bits < Magnitude.infinityBits) (hcount : count ≤ 16) :
    Overflows (count + 1 : Nat) (ofSignAndBits negative bits) ↔
      (Digits.significant (.ofBits bits) (count + 1)).nearestBits = Magnitude.infinityBits := by
  constructor
  · rintro ⟨value, hvalue, hinf⟩
    by_cases hoverflow : (Digits.significant (.ofBits bits) (count + 1)).nearestBits = Magnitude.infinityBits
    · exact hoverflow
    · rw [rounded_eq negative h hcount, Except.ok.injEq] at hvalue
      have hfinite : value.isFinite = true := by
        rw [← hvalue]
        split
        · exact isFinite_signAndBits negative h
        · exact isFinite_toFloat hoverflow negative
      rw [isInf_of_isFinite hfinite] at hinf
      contradiction
  · intro hoverflow
    have hfield := field_of_overflow hcount hoverflow
    have hpos := twoTo_pos 52
    refine ⟨_, rounded_eq negative h hcount, ?_⟩
    rw [if_neg (by omega), Digits.toFloat, hoverflow]
    cases negative <;> rfl

/-- There are values that are rounded to infinity exactly if the greatest finite one is. -/
theorem exists_overflows_iff (hcount : count ≤ 16) :
    (∃ x : Float, x.isFinite = true ∧ Overflows (count + 1 : Nat) x) ↔ ((count + 1 : Nat) : Int) ∈ overflowing := by
  have hgreatest : ∀ count < 17, (Digits.significant (.ofBits (Magnitude.infinityBits - 1)) (count + 1)).nearestBits =
      Magnitude.infinityBits ↔ ((count + 1 : Nat) : Int) ∈ overflowing := by decide +kernel
  have hlast : Magnitude.infinityBits - 1 < Magnitude.infinityBits := by decide
  rw [← hgreatest count (Nat.lt_succ_of_le hcount)]
  constructor
  · rintro ⟨x, hfinite, hoverflow⟩
    obtain ⟨negative, bits, h, rfl⟩ := exists_signAndBits hfinite
    have hle := Digits.nearestBits_significant_le (Nat.le_sub_one_of_lt h) hlast count
    rw [(overflows_iff negative h hcount).mp hoverflow] at hle
    exact Nat.le_antisymm (Digits.nearestBits_le_infinityBits _) hle
  · intro hoverflow
    exact ⟨ofSignAndBits false (Magnitude.infinityBits - 1), isFinite_signAndBits false hlast,
      (overflows_iff false hlast hcount).mpr hoverflow⟩

theorem scientificText_eq (hcount : count ≤ 16) (value : Float) : scientificText (count + 1 : Nat) value =
    if value.isInf then .error .noExponent
    else .ok (String.ofList (Layout.signed (isNegative value)
      (layout.scientific (Digits.significant (magnitude value) (count + 1)).trim))) := by
  have hplaces : ((count + 1 : Nat) : Int) - 1 = count := by omega
  rw [scientificText, hplaces, digitCount_eq (by omega), ok_bind]
  split <;> rfl

theorem text_of_rounded {threshold x value : Float} (hsmall : ¬x.abs < threshold)
    (hrounded : rounded (count + 1 : Nat) x = .ok value) : text (count + 1 : Nat) threshold x =
      if value == 0 then .ok "0"
      else if needsExponent value then scientificText (count + 1 : Nat) value
      else .ok (positionalText value) := by
  rw [text, if_neg hsmall, hrounded, ok_bind, orStandard_succ]
  rfl

/-- A value that is rounded to infinity has no text. -/
theorem text_of_overflows {x : Float} (hfinite : x.isFinite = true) (hcount : count ≤ 16)
    (hoverflow : Overflows (count + 1 : Nat) x) :
    text (count + 1 : Nat) Settings.standard.zeroThreshold x = .error .noExponent := by
  obtain ⟨negative, bits, h, rfl⟩ := exists_signAndBits hfinite
  have hbits := (overflows_iff negative h hcount).mp hoverflow
  have hfield := field_of_overflow hcount hbits
  have hpos := twoTo_pos 52
  have hsmall : ¬(ofSignAndBits negative bits).abs < Settings.standard.zeroThreshold := by
    have hthreshold : Settings.standard.zeroThreshold = ofSignAndBits false 0x3CD203AF9EE75616 := by rfl
    have hlast : 0x3CD203AF9EE75616 < 2046 * twoTo 52 := by decide
    rw [abs_signAndBits negative h, hthreshold, lt_signAndBits (Nat.le_of_lt h) (by decide)]
    omega
  have hrounded : rounded (count + 1 : Nat) (ofSignAndBits negative bits) =
      .ok (ofSignAndBits negative Magnitude.infinityBits) := by
    rw [rounded_eq negative h hcount, if_neg (by omega), Digits.toFloat, hbits]
  rw [text_of_rounded hsmall hrounded, scientificText_eq hcount]
  cases negative <;> rfl

theorem text_of_not_overflows {x : Float} (hfinite : x.isFinite = true) (hcount : count ≤ 16)
    (hoverflow : ¬Overflows (count + 1 : Nat) x) (threshold : Float) :
    ∃ shown, text (count + 1 : Nat) threshold x = .ok shown := by
  by_cases hsmall : x.abs < threshold
  · exact ⟨"0", if_pos hsmall⟩
  · obtain ⟨value, hrounded⟩ : ∃ value, rounded (count + 1 : Nat) x = .ok value := by
      obtain ⟨negative, bits, h, rfl⟩ := exists_signAndBits hfinite
      exact ⟨_, rounded_eq negative h hcount⟩
    have hinf : ¬value.isInf = true := fun hinf => hoverflow ⟨value, hrounded, hinf⟩
    rw [text_of_rounded hsmall hrounded, scientificText_eq hcount, if_neg hinf]
    by_cases hzero : (value == 0) = true
    · exact ⟨"0", if_pos hzero⟩
    · rw [if_neg hzero]
      split <;> exact ⟨_, rfl⟩

/-- A finite value has a text with so many digits unless it is rounded to infinity. -/
theorem text_cases {precision : Int} (hlow : 1 ≤ precision) (hhigh : precision ≤ 17) {x : Float}
    (hfinite : x.isFinite = true) :
    (¬Overflows precision x ∧ ∃ shown, text precision Settings.standard.zeroThreshold x = .ok shown) ∨
    (Overflows precision x ∧ precision ∈ overflowing ∧
      text precision Settings.standard.zeroThreshold x = .error .noExponent) := by
  obtain ⟨count, hcount, rfl⟩ : ∃ count : Nat, count ≤ 16 ∧ precision = (count + 1 : Nat) :=
    ⟨precision.toNat - 1, by omega, by omega⟩
  by_cases hoverflow : Overflows (count + 1 : Nat) x
  · have hgreat := (exists_overflows_iff hcount).mp ⟨x, hfinite, hoverflow⟩
    exact Or.inr ⟨hoverflow, hgreat, text_of_overflows hfinite hcount hoverflow⟩
  · exact Or.inl ⟨hoverflow, text_of_not_overflows hfinite hcount hoverflow _⟩

end

end SciCalc.Display
