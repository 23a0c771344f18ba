import SciCalc.Proofs.RepeatedRounding
import SciCalc.Proofs.ShortestDigits

/-!
# The fewest digits

Digits without zeros at their end are the fewest of their decimal. A magnitude that so many significant digits are read
as has shortest digits that are no more.
-/

namespace SciCalc.Decimal

/-- Zeros are written behind a number by multiplying it. -/
theorem numeral_tenTo {n : Nat} (h : 0 < n) (zeros : Nat) :
    numeral (n * tenTo zeros) = numeral n ++ List.replicate zeros '0' := by
  induction zeros with
  | zero =>
    rw [List.replicate_zero, List.append_nil]
    exact congrArg numeral (Nat.mul_one n)
  | succ zeros ih =>
    have hten : n * tenTo (zeros + 1) = 10 * (n * tenTo zeros) + 0 := by
      rw [tenTo_add, ← Nat.mul_assoc, Nat.mul_comm]
      rfl
    have hpos : 0 < n * tenTo zeros := Nat.mul_pos h (tenTo_pos zeros)
    rw [hten]
    show Nat.toDigits 10 _ = _
    rw [← Nat.toDigits_append_toDigits (by decide) hpos (by decide)]
    change numeral (n * tenTo zeros) ++ ['0'] = _
    rw [ih, List.append_assoc, ← List.replicate_succ']

theorem getLast?_numeral (n : Nat) : (numeral n).getLast? = some (n % 10).digitChar := by
  show (Nat.toDigits 10 n).getLast? = _
  rw [Nat.toDigits_eq_if (by decide)]
  split
  · rename_i hless
    rw [Nat.mod_eq_of_lt hless]
    rfl
  · exact List.getLast?_concat

namespace Digits

attribute [local irreducible] Magnitude.unitsPerOne

variable {d : Digits}

/-- There are no zeros at the end of the digits. -/
def IsTrimmed (d : Digits) : Prop := d.digits % 10 ≠ 0

/-- The zeros at the end are as many as are taken from it. -/
theorem isTrimmed_trim (h : d.digits ≠ 0) : d.trim.IsTrimmed := by
  simp only [trim, if_neg h]
  have hdvd := Nat.div_mul_cancel (tenTo_zeros_dvd d.digits)
  obtain ⟨zeros, hzeros⟩ : ∃ zeros, zeros = ((numeral d.digits).reverse.takeWhile (· == '0')).length := ⟨_, rfl⟩
  rw [← hzeros] at hdvd ⊢
  generalize d.digits / tenTo zeros = rest at hdvd ⊢
  intro hten
  obtain ⟨less, rfl⟩ := Nat.dvd_of_mod_eq_zero hten
  have hpos : 0 < less := by
    apply Nat.pos_of_ne_zero
    rintro rfl
    rw [Nat.mul_zero, Nat.zero_mul] at hdvd
    exact h hdvd.symm
  have hdigits : d.digits = less * tenTo (zeros + 1) := by
    rw [← hdvd, tenTo_add, ← Nat.mul_assoc, Nat.mul_comm 10, Nat.mul_right_comm]
    rfl
  have hmore : ∀ c ∈ List.replicate (zeros + 1) '0', (c == '0') = true := by
    intro c hc
    rw [(List.mem_replicate.mp hc).2]
    rfl
  rw [hdigits, numeral_tenTo hpos, List.reverse_append, List.reverse_replicate,
    List.takeWhile_append_of_pos hmore, List.length_append, List.length_replicate] at hzeros
  omega

theorem length_trim_le {count : Nat} (h : d.digits ≤ tenTo (count + 1)) :
    (numeral d.trim.digits).length ≤ count + 1 := by
  apply (Nat.length_toDigits_le_iff (by decide) (Nat.zero_lt_succ count)).mpr
  by_cases hzero : d.digits = 0
  · simp only [trim, if_pos hzero]
    exact tenTo_pos (count + 1)
  · have htrimmed := isTrimmed_trim hzero
    have hle : d.trim.digits ≤ tenTo (count + 1) := by
      simp only [trim, if_neg hzero]
      exact Nat.le_trans (Nat.div_le_self _ _) h
    apply Nat.lt_of_le_of_ne hle
    intro htop
    rw [IsTrimmed, htop, tenTo_add] at htrimmed
    exact htrimmed (Nat.mul_mod_left (tenTo count) 10)

section

variable {x : Magnitude} {nearest below above : Digits} {reads reads' : Bool}

theorem pick?_eq_some (h : pick? nearest below above reads reads' = some d) :
    d = nearest ∨ d = below ∨ d = above := by
  cases reads <;> cases reads' <;> cases h
  · exact Or.inr (Or.inr rfl)
  · exact Or.inr (Or.inl rfl)
  · exact Or.inl rfl

theorem isSome_pick? (h : reads = true ∨ reads' = true) :
    (pick? nearest below above reads reads').isSome = true := by
  rcases h with rfl | rfl
  · cases reads' <;> rfl
  · cases reads <;> rfl

theorem digits_of_nearestAt? {exponent : Int} (h : nearestAt? x exponent = some d) :
    d.digits ≤ (steps x exponent).1 / (steps x exponent).2 + 1 := by
  rcases pick?_eq_some h with rfl | rfl | rfl
  · rcases roundDiv_eq_or (steps x exponent).1 (steps x exponent).2 with hbelow | habove
    · rw [hbelow]
      exact Nat.le_succ _
    · exact Nat.le_of_eq habove
  · exact Nat.le_succ _
  · exact Nat.le_refl _

/-- The steps that are nearest to the magnitude lie next to it, so they are found if they read back. -/
theorem isSome_nearestAt? {exponent : Int}
    (h : (⟨roundDiv (steps x exponent).1 (steps x exponent).2, exponent⟩ : Digits).readsBack x = true) :
    (nearestAt? x exponent).isSome = true := by
  apply isSome_pick?
  rcases roundDiv_eq_or (steps x exponent).1 (steps x exponent).2 with hbelow | habove
  · rw [hbelow] at h
    exact Or.inl h
  · rw [habove] at h
    exact Or.inr h

theorem readsBack_of_nearestBits (hx : x.IsCanonical) (hfinite : x.bits < Magnitude.infinityBits)
    (h : d.nearestBits = x.bits) : d.readsBack x = true := by
  have hnear := isNear_of_nearestBits hx hfinite h
  rw [readsBack_iff, toRatio, Nat.mul_assoc, Nat.mul_comm (tenTo d.exponent.toNat)]
  exact hnear

theorem exists_trim_eq_shortest (x : Magnitude) : ∃ d : Digits, shortest x = d.trim := by
  rw [shortest]
  split
  · exact ⟨⟨0, 0⟩, rfl⟩
  · exact ⟨_, rfl⟩

theorem isTrimmed_shortest (hx : x.IsCanonical) (hfinite : x.bits < Magnitude.infinityBits) (hne : x.bits ≠ 0) :
    (shortest x).IsTrimmed := by
  obtain ⟨d, hd⟩ := exists_trim_eq_shortest x
  have hread := nearestBits_eq (readsBack_shortest x) hx hfinite
  rw [hd] at hread ⊢
  apply isTrimmed_trim
  intro hzero
  simp only [trim, if_pos hzero] at hread
  exact hne hread.symm

/-- A magnitude that its own significant digits are read as has no more shortest digits. -/
theorem length_shortest_le {count : Nat} (hx : x.IsCanonical) (hfinite : x.bits < Magnitude.infinityBits)
    (hcount : count ≤ 16) (h : (significant x (count + 1)).nearestBits = x.bits) :
    (numeral (shortest x).digits).length ≤ count + 1 := by
  by_cases hzero : x.significand = 0
  · rw [shortest, if_pos hzero]
    exact Nat.succ_le_succ (Nat.zero_le count)
  rw [nearestBits_uncarried, uncarried_eq] at h
  have hfound := isSome_nearestAt? (readsBack_of_nearestBits hx hfinite h)
  have hsplit : List.range 17 = List.range (count + 1) ++ (List.range (16 - count)).map (count + 1 + ·) := by
    rw [← List.range_add]
    congr 1
    omega
  obtain ⟨d, hd⟩ : ∃ d, (List.range (count + 1)).findSome? (fun (count : Nat) =>
      nearestAt? x (x.decimalScale - (count + 1))) = some d := by
    apply Option.isSome_iff_exists.mp
    rw [List.findSome?_isSome_iff]
    exact ⟨count, List.mem_range.mpr (Nat.lt_succ_self count), hfound⟩
  have hshortest : shortest x = d.trim := by
    rw [shortest, if_neg hzero, hsplit]
    simp only [List.findSome?_append, hd, Option.some_or, Option.getD_some]
  obtain ⟨fewer, hfewer, hfew⟩ := List.exists_of_findSome?_eq_some hd
  have hle : fewer ≤ count := Nat.le_of_lt_succ (List.mem_range.mp hfewer)
  have hdigits : d.digits ≤ tenTo (fewer + 1) := by
    have hbelow := (Nat.div_lt_iff_lt_mul (steps_pos x _)).mpr (steps_lt x (fewer + 1))
    exact Nat.le_trans (digits_of_nearestAt? hfew) hbelow
  rw [hshortest]
  exact Nat.le_trans (length_trim_le hdigits) (Nat.succ_le_succ hle)

end

end Digits

end SciCalc.Decimal
