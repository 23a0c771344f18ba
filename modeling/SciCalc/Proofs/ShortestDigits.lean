import SciCalc.Proofs.ReadingBack

/-!
# The shortest digits read back

Of the two decimals next to a magnitude only those are taken that read back to it. If there is none with
seventeen digits, the exact decimal serves. Trailing zeros may then be dropped.
-/

namespace SciCalc.Decimal

theorem roundDiv_eq_or (num den : Nat) : roundDiv num den = num / den ∨ roundDiv num den = num / den + 1 := by
  simp only [roundDiv]
  split
  · exact Or.inl rfl
  · exact Or.inr rfl
  · split
    · exact Or.inl rfl
    · exact Or.inr rfl

/-- The value of digits is a multiple of a power of ten for each zero at their end. -/
theorem tenTo_zeros_dvd (n : Nat) :
    tenTo ((numeral n).reverse.takeWhile (· == '0')).length ∣ n := by
  have hsplit := List.takeWhile_append_dropWhile (p := (· == '0')) (l := (numeral n).reverse)
  have hzeros : (numeral n).reverse.takeWhile (· == '0') =
      List.replicate ((numeral n).reverse.takeWhile (· == '0')).length '0' := by
    refine List.eq_replicate_iff.mpr ⟨rfl, fun c hc => ?_⟩
    exact beq_iff_eq.mp (List.all_eq_true.mp List.all_takeWhile c hc)
  generalize ((numeral n).reverse.takeWhile (· == '0')).length = count at hzeros ⊢
  rw [hzeros] at hsplit
  have hdigits : numeral n = ((numeral n).reverse.dropWhile (· == '0')).reverse ++
      List.replicate count '0' := by
    have hreverse := congrArg List.reverse hsplit
    rw [List.reverse_append, List.reverse_reverse, List.reverse_replicate] at hreverse
    exact hreverse.symm
  have hvalue : Nat.ofDigitChars 10 (numeral n) 0 = n := Nat.ofDigitChars_ten_toDigits
  rw [hdigits, Nat.ofDigitChars_append, Nat.ofDigitChars_replicate_zero] at hvalue
  exact ⟨_, hvalue.symm⟩

namespace Digits

variable {x : Magnitude}

theorem readsBack_of_pick? {nearest below above d : Digits} (hnearest : nearest = below ∨ nearest = above)
    (h : pick? nearest below above (below.readsBack x) (above.readsBack x) = some d) :
    d.readsBack x = true := by
  cases hbelow : below.readsBack x with
  | true =>
    cases habove : above.readsBack x with
    | true =>
      rw [hbelow, habove] at h
      cases h
      rcases hnearest with rfl | rfl
      · exact hbelow
      · exact habove
    | false =>
      rw [hbelow, habove] at h
      cases h
      exact hbelow
  | false =>
    cases habove : above.readsBack x with
    | true =>
      rw [hbelow, habove] at h
      cases h
      exact habove
    | false =>
      rw [hbelow, habove] at h
      contradiction

theorem readsBack_of_nearestAt? {exponent : Int} {d : Digits} (h : nearestAt? x exponent = some d) :
    d.readsBack x = true := by
  refine readsBack_of_pick? ?_ h
  rcases roundDiv_eq_or (steps x exponent).1 (steps x exponent).2 with hround | hround
  · exact Or.inl (congrArg (Digits.mk · exponent) hround)
  · exact Or.inr (congrArg (Digits.mk · exponent) hround)

theorem readsBack_exact (hx : x.significand ≠ 0) : (exact x).readsBack x = true := by
  have hgap := twoTo_pos x.shift
  have hunits : twoTo x.shift ≤ x.units := Nat.le_mul_of_pos_left _ (Nat.pos_of_ne_zero hx)
  have hcut : 0 < (if x.narrowBelow then twoTo x.shift else 2 * twoTo x.shift) ∧
      (if x.narrowBelow then twoTo x.shift else 2 * twoTo x.shift) ≤ 2 * twoTo x.shift := by
    split <;> omega
  have hself : x.IsNear x.units 1 :=
    ⟨Nat.one_pos, by omega, by omega, fun h => by omega, fun h => by omega⟩
  have hten : tenTo 1074 = Nat.pow 5 1074 * Magnitude.unitsPerOne := by decide +kernel
  have hplaces : Int.toNat 1074 = 1074 := rfl
  have hnone : Int.toNat (-1074) = 0 := rfl
  have hone : tenTo 0 = 1 := rfl
  rw [readsBack_iff]
  refine hself.congr (toRatio_pos _) ?_
  simp only [exact, toRatio, Int.neg_neg]
  rw [hplaces, hnone, hten, hone, Nat.mul_one, Nat.mul_one, Nat.mul_assoc]

theorem same_trim (d : Digits) : Same d d.trim := by
  simp only [trim]
  split
  · rename_i hzero
    simp [Same, toRatio, hzero]
  · have hdvd := Nat.div_mul_cancel (tenTo_zeros_dvd d.digits)
    have hsame := same_of_zeros (d.digits / tenTo ((numeral d.digits).reverse.takeWhile (· == '0')).length)
      ((numeral d.digits).reverse.takeWhile (· == '0')).length d.exponent
    rw [hdvd] at hsame
    exact hsame

/-- The shortest digits of a magnitude read back to it. -/
theorem readsBack_shortest (x : Magnitude) : (shortest x).readsBack x = true := by
  by_cases hzero : x.significand = 0
  · have hnear : x.IsNear 0 1 :=
      ⟨Nat.one_pos, by simp [Magnitude.units, hzero], Nat.zero_le _, fun _ => by rw [hzero],
        fun _ => by rw [hzero]⟩
    rw [shortest, if_pos hzero, readsBack_iff]
    refine hnear.congr (toRatio_pos _) ?_
    simp only [toRatio, Nat.zero_mul]
  · rw [shortest, if_neg hzero]
    refine (same_trim _).readsBack ?_
    cases hfound : (List.range 17).findSome? fun (count : Nat) =>
      nearestAt? x (x.decimalScale - (count + 1)) with
    | none =>
      rw [Option.getD_none]
      exact readsBack_exact hzero
    | some d =>
      obtain ⟨count, -, hd⟩ := List.exists_of_findSome?_eq_some hfound
      rw [Option.getD_some]
      exact readsBack_of_nearestAt? hd

end Digits

end SciCalc.Decimal
