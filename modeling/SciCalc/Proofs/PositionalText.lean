import SciCalc.Decimal.Layout
import SciCalc.Proofs.Numerals
import SciCalc.Proofs.ShortestDigits

/-!
# Positional texts

Digits with the point in its place are a numeral, and this writes the decimal of the digits. So a value that is
written so is read back.
-/

namespace SciCalc.Decimal

open Token (IsNumeral)

theorem isDigit_of_mem_numeral (n : Nat) : ∀ c ∈ numeral n, c.isDigit :=
  fun _ hc => Nat.isDigit_of_mem_toDigits (by decide) (by decide) hc

theorem isDigit_of_mem_zeros (count : Nat) : ∀ c ∈ List.replicate count '0', c.isDigit := by
  intro c hc
  rw [(List.mem_replicate.mp hc).2]
  rfl

theorem isDigit_of_mem_append {xs ys : List Char} (hx : ∀ c ∈ xs, c.isDigit) (hy : ∀ c ∈ ys, c.isDigit) :
    ∀ c ∈ xs ++ ys, c.isDigit :=
  fun c hc => (List.mem_append.mp hc).elim (hx c) (hy c)

theorem digitsValue_numeral (n : Nat) : digitsValue (numeral n) = n := Nat.ofDigitChars_ten_toDigits

theorem digitsValue_zeros_behind (digits : List Char) (count : Nat) :
    digitsValue (digits ++ List.replicate count '0') = digitsValue digits * tenTo count := by
  show Nat.ofDigitChars 10 _ 0 = Nat.ofDigitChars 10 _ 0 * tenTo count
  rw [Nat.ofDigitChars_append, Nat.ofDigitChars_replicate_zero, Nat.mul_comm]
  rfl

theorem digitsValue_padZeros (width : Nat) (digits : List Char) :
    digitsValue (padZeros width digits) = digitsValue digits := by
  show Nat.ofDigitChars 10 (padZeros width digits) 0 = Nat.ofDigitChars 10 digits 0
  rw [padZeros, Nat.ofDigitChars_append, Nat.ofDigitChars_replicate_zero, Nat.mul_zero]

namespace Digits

theorem ofNumeral_whole {digits : List Char} (hd : ∀ c ∈ digits, c.isDigit) :
    ofNumeral digits = ⟨digitsValue digits, 0⟩ := by
  have htake := @takeWhile_run _ Char.isDigit digits [] hd (by simp)
  have hdrop := @dropWhile_run _ Char.isDigit digits [] hd (by simp)
  rw [List.append_nil] at htake hdrop
  simp [ofNumeral, htake, hdrop]

theorem ofNumeral_pointed {whole : List Char} (fraction : List Char) (hw : ∀ c ∈ whole, c.isDigit) :
    ofNumeral (whole ++ '.' :: fraction) = ⟨digitsValue (whole ++ fraction), -fraction.length⟩ := by
  have hpoint : ∀ c ∈ ('.' :: fraction).head?, c.isDigit = false := by simp
  simp [ofNumeral, takeWhile_run hw hpoint, dropWhile_run hw hpoint]

end Digits

namespace Layout

variable (layout : Layout) (d : Digits)

/-- The digits before the point of a whole number. -/
def wholeDigits (d : Digits) : List Char :=
  if d.digits = 0 then ['0'] else numeral d.digits ++ List.replicate d.exponent.toNat '0'

theorem isDigit_of_mem_wholeDigits : ∀ c ∈ wholeDigits d, c.isDigit := by
  unfold wholeDigits
  split
  · exact isDigit_of_mem_zeros 1
  · exact isDigit_of_mem_append (isDigit_of_mem_numeral _) (isDigit_of_mem_zeros _)

theorem wholeDigits_ne_nil : wholeDigits d ≠ [] := by
  unfold wholeDigits
  split
  · simp
  · exact List.append_ne_nil_of_left_ne_nil Nat.toDigits_ne_nil _

theorem digitsValue_wholeDigits : digitsValue (wholeDigits d) = d.digits * tenTo d.exponent.toNat := by
  unfold wholeDigits
  split
  · rename_i hzero
    rw [hzero, Nat.zero_mul]
    rfl
  · rw [digitsValue_zeros_behind, digitsValue_numeral]

/-- What a whole number is written as, and its decimal. -/
theorem positional_whole (h : 0 ≤ d.exponent) :
    IsNumeral (layout.positional d) ∧ Digits.Same (.ofNumeral (layout.positional d)) d := by
  have hdigits := isDigit_of_mem_wholeDigits d
  have htext : layout.positional d =
      if layout.pointZero then wholeDigits d ++ ['.', '0'] else wholeDigits d := by
    rw [positional, if_pos h]
    rfl
  rw [htext]
  split
  · refine ⟨.pointed _ ['0'] hdigits (isDigit_of_mem_zeros 1) (by simp), ?_⟩
    have hsame := Digits.same_of_zeros d.digits (d.exponent.toNat + 1) (-1)
    have hexponent : -1 + ((d.exponent.toNat + 1 : Nat) : Int) = d.exponent := by omega
    have hvalue := digitsValue_zeros_behind (wholeDigits d) 1
    rw [digitsValue_wholeDigits, Nat.mul_assoc, ← tenTo_add] at hvalue
    rw [hexponent, ← hvalue] at hsame
    rw [Digits.ofNumeral_pointed ['0'] hdigits]
    exact hsame
  · refine ⟨.whole _ hdigits (wholeDigits_ne_nil d), ?_⟩
    have hsame := Digits.same_of_zeros d.digits d.exponent.toNat 0
    have hexponent : 0 + (d.exponent.toNat : Int) = d.exponent := by omega
    rw [hexponent, ← digitsValue_wholeDigits] at hsame
    rw [Digits.ofNumeral_whole hdigits]
    exact hsame

/-- What a number with places behind the point is written as, and its decimal. -/
theorem positional_places (h : d.exponent < 0) :
    IsNumeral (layout.positional d) ∧ Digits.Same (.ofNumeral (layout.positional d)) d := by
  have hdigits : ∀ c ∈ padZeros ((-d.exponent).toNat + 1) (numeral d.digits), c.isDigit :=
    isDigit_of_mem_append (isDigit_of_mem_zeros _) (isDigit_of_mem_numeral _)
  have hvalue : digitsValue (padZeros ((-d.exponent).toNat + 1) (numeral d.digits)) = d.digits := by
    rw [digitsValue_padZeros, digitsValue_numeral]
  have hlength : (-d.exponent).toNat < (padZeros ((-d.exponent).toNat + 1) (numeral d.digits)).length := by
    rw [padZeros, List.length_append, List.length_replicate]
    omega
  rw [positional, if_neg (Int.not_le.mpr h)]
  simp only
  generalize padZeros ((-d.exponent).toNat + 1) (numeral d.digits) = digits at hdigits hvalue hlength ⊢
  have hwhole : ∀ c ∈ digits.take (digits.length - (-d.exponent).toNat), c.isDigit :=
    fun c hc => hdigits c (List.mem_of_mem_take hc)
  have hfraction : ∀ c ∈ digits.drop (digits.length - (-d.exponent).toNat), c.isDigit :=
    fun c hc => hdigits c (List.mem_of_mem_drop hc)
  have hplaces : (digits.drop (digits.length - (-d.exponent).toNat)).length = (-d.exponent).toNat := by
    rw [List.length_drop]
    omega
  refine ⟨.pointed _ _ hwhole hfraction ?_, ?_⟩
  · intro hnil
    rw [hnil, List.length_nil] at hplaces
    omega
  · have hexponent : -((-d.exponent).toNat : Int) = d.exponent := by omega
    rw [Digits.ofNumeral_pointed _ hwhole, List.take_append_drop, hvalue, hplaces, hexponent]
    rfl

theorem isNumeral_positional : IsNumeral (layout.positional d) := by
  rcases Int.lt_or_le d.exponent 0 with h | h
  · exact (positional_places layout d h).1
  · exact (positional_whole layout d h).1

theorem same_positional : Digits.Same (.ofNumeral (layout.positional d)) d := by
  rcases Int.lt_or_le d.exponent 0 with h | h
  · exact (positional_places layout d h).2
  · exact (positional_whole layout d h).2

end Layout

/-- A magnitude that is written positionally with its shortest digits is read back. -/
theorem nearestBits_positional (layout : Layout) {x : Magnitude} (hx : x.IsCanonical)
    (hbits : x.bits < Magnitude.infinityBits) :
    (Digits.ofNumeral (layout.positional (.shortest x))).nearestBits = x.bits := by
  have hsame := (layout.same_positional (.shortest x)).symm
  exact Digits.nearestBits_eq (hsame.readsBack (Digits.readsBack_shortest x)) hx hbits

end SciCalc.Decimal
