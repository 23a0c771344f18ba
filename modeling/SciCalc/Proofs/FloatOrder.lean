import SciCalc.Proofs.FloatBits
import SciCalc.Proofs.Nearest

/-!
# The order of values

Values are in the order of their bits, those with a sign in the opposite order; infinity lies behind all of them.
-/

namespace SciCalc.Decimal

open Float.Model Float.Model.UnpackedFloat

theorem lt_iff_compare {x y : Float} : x < y ↔ x.toModel.unpack.compare y.toModel.unpack = some .lt := by
  show (decide (x.toModel < y.toModel)) = true ↔ _
  rw [decide_eq_true_iff]
  exact beq_iff_eq

theorem le_iff_compare {x y : Float} :
    x ≤ y ↔ (x.toModel.unpack.compare y.toModel.unpack).any Ordering.isLE = true := by
  show (decide (x.toModel ≤ y.toModel)) = true ↔ _
  rw [decide_eq_true_iff]
  exact Iff.rfl

section

variable {bits bits' : Nat}

theorem unpack_of_unpacks {u : Sign → UnpackedFloat} (h : bits < Magnitude.infinityBits)
    (hu : Unpacks (BitVec.ofNat 11 (bits / twoTo 52)) (BitVec.ofNat 52 bits) u) (negative : Bool) :
    (ofSignAndBits negative bits).toModel.unpack = u (signOf negative) := by
  show UnpackedFloat.unpack Format.binary64 (UnpackedFloat.pack Format.binary64
    (UnpackedFloat.unpack Format.binary64 (UInt64.ofNat _).toBitVec)) = _
  rw [toBitVec_signAndBits negative h, hu.unpack, hu.pack, hu.unpack]

theorem unpack_infinity (negative : Bool) :
    (ofSignAndBits negative Magnitude.infinityBits).toModel.unpack = .infinity (signOf negative) := by
  cases negative <;> rfl

theorem unpack_zero (negative : Bool) : (ofSignAndBits negative 0).toModel.unpack = .zero (signOf negative) :=
  unpack_of_unpacks (by decide) unpacks_zero negative

/-- A value other than zero is unpacked to its significand and its shift. -/
theorem unpack_signAndBits (negative : Bool) (h : bits < Magnitude.infinityBits)
    (hpos : 0 < (Magnitude.ofBits bits).significand) : (ofSignAndBits negative bits).toModel.unpack =
      .finite (signOf negative) (Magnitude.ofBits bits).significand ((Magnitude.ofBits bits).shift - 1074) hpos := by
  have h52 : twoTo 52 = 4503599627370496 := rfl
  have hinf : Magnitude.infinityBits = 9218868437227405312 := rfl
  have hfield : bits / twoTo 52 % twoTo 11 = bits / twoTo 52 := Nat.mod_eq_of_lt (by
    rw [h52]
    show _ < 2048
    omega)
  have hexponent : (BitVec.ofNat 11 (bits / twoTo 52)).toNat = bits / twoTo 52 := hfield
  have hfraction : (BitVec.ofNat 52 bits).toNat = bits % twoTo 52 := BitVec.toNat_ofNat _ _
  by_cases hzero : bits / twoTo 52 = 0
  · have hsplit : Magnitude.ofBits bits = ⟨bits % twoTo 52, 0⟩ := by
      dsimp only [Magnitude.ofBits]
      rw [hfield, if_pos hzero]
    have hfractionPos : 0 < (BitVec.ofNat 52 bits).toNat := by
      rw [hsplit] at hpos
      rwa [hfraction]
    have hsubnormal := unpacks_subnormal hfractionPos
    rw [show (0#11 : BitVec 11) = BitVec.ofNat 11 (bits / twoTo 52) by rw [hzero]] at hsubnormal
    rw [unpack_of_unpacks h hsubnormal]
    exact finite_congr rfl (by rw [hfraction, hsplit]) (by rw [hsplit]; rfl)
  · have hsplit : Magnitude.ofBits bits = ⟨twoTo 52 + bits % twoTo 52, bits / twoTo 52 - 1⟩ := by
      dsimp only [Magnitude.ofBits]
      rw [hfield, if_neg hzero]
    have hne : BitVec.ofNat 11 (bits / twoTo 52) ≠ 0#11 := by
      intro heq
      rw [heq] at hexponent
      exact hzero hexponent.symm
    rw [unpack_of_unpacks h (unpacks_normal (BitVec.ofNat 52 bits) hne (exponentField_ne h))]
    refine finite_congr rfl ?_ ?_
    · rw [toNat_one_append, hfraction, hsplit]
    · rw [hexponent, hsplit]
      dsimp only
      omega

theorem bits_eq_zero (h : bits < Magnitude.infinityBits) (hzero : (Magnitude.ofBits bits).significand = 0) :
    bits = 0 := by
  have habove := (Magnitude.isCanonical_ofBits bits).above
  have hbits := Magnitude.bits_ofBits h
  have hpos := twoTo_pos 52
  rw [Magnitude.bits, hzero] at hbits
  by_cases hshift : (Magnitude.ofBits bits).shift = 0
  · rw [hshift] at hbits
    omega
  · have := habove hshift
    omega

theorem pos_of_significand (hpos : 0 < (Magnitude.ofBits bits).significand) : 0 < bits := by
  refine Nat.pos_of_ne_zero ?_
  rintro rfl
  contradiction

/-- Shift and significand are in the order of the bits. -/
theorem compare_bits {x y : Magnitude} (hx : x.IsCanonical) (hy : y.IsCanonical) :
    (compare (x.shift - 1074 : Int) (y.shift - 1074)).then (compare x.significand y.significand) =
      compare x.bits y.bits := by
  rcases Nat.lt_trichotomy x.shift y.shift with hless | heq | hmore
  · have hshift : compare (x.shift - 1074 : Int) (y.shift - 1074) = .lt := Int.compare_eq_lt.mpr (by omega)
    rw [hshift, Nat.compare_eq_lt.mpr (hx.bits_lt_bits hy hless)]
    rfl
  · have hshift : compare (x.shift - 1074 : Int) (y.shift - 1074) = .eq := Int.compare_eq_eq.mpr (by omega)
    rw [hshift, Magnitude.bits, Magnitude.bits, heq]
    show compare x.significand y.significand = _
    rcases Nat.lt_trichotomy x.significand y.significand with h | h | h
    · rw [Nat.compare_eq_lt.mpr h, Nat.compare_eq_lt.mpr (Nat.add_lt_add_left h _)]
    · rw [h, Nat.compare_eq_eq.mpr rfl, Nat.compare_eq_eq.mpr rfl]
    · rw [Nat.compare_eq_gt.mpr h, Nat.compare_eq_gt.mpr (Nat.add_lt_add_left h _)]
  · have hshift : compare (x.shift - 1074 : Int) (y.shift - 1074) = .gt := Int.compare_eq_gt.mpr (by omega)
    rw [hshift, Nat.compare_eq_gt.mpr (hy.bits_lt_bits hx hmore)]
    rfl

/-- Sign and bits of zero are those of no other value but its negation. -/
theorem beq_zero (negative : Bool) (h : bits < Magnitude.infinityBits) :
    (ofSignAndBits negative bits == 0) = decide (bits = 0) := by
  show ((ofSignAndBits negative bits).toModel.unpack.compare (.zero .positive) == some .eq) = _
  rcases Nat.eq_zero_or_pos (Magnitude.ofBits bits).significand with hzero | hpos
  · obtain rfl := bits_eq_zero h hzero
    rw [unpack_zero]
    rfl
  · have hne : bits ≠ 0 := Nat.ne_of_gt (pos_of_significand hpos)
    rw [unpack_signAndBits negative h hpos, decide_eq_false hne]
    cases negative <;> rfl

/-- Magnitude bits with a sign. -/
def signedBits (negative : Bool) (bits : Nat) : Int := if negative then -bits else bits

theorem signedBits_true (bits : Nat) : signedBits true bits = -bits := rfl

theorem signedBits_false (bits : Nat) : signedBits false bits = bits := rfl

/-- The three kinds of magnitudes, and what a value is unpacked to. -/
theorem unpack_cases (h : bits ≤ Magnitude.infinityBits) :
    (bits = 0 ∧ ∀ negative, (ofSignAndBits negative bits).toModel.unpack = .zero (signOf negative)) ∨
    (0 < bits ∧ bits < Magnitude.infinityBits ∧
      ∃ hpos, ∀ negative, (ofSignAndBits negative bits).toModel.unpack = .finite (signOf negative)
        (Magnitude.ofBits bits).significand ((Magnitude.ofBits bits).shift - 1074) hpos) ∨
    (bits = Magnitude.infinityBits ∧
      ∀ negative, (ofSignAndBits negative bits).toModel.unpack = .infinity (signOf negative)) := by
  rcases Nat.lt_or_eq_of_le h with hfinite | rfl
  · rcases Nat.eq_zero_or_pos (Magnitude.ofBits bits).significand with hzero | hpos
    · obtain rfl := bits_eq_zero hfinite hzero
      exact Or.inl ⟨rfl, unpack_zero⟩
    · exact Or.inr (Or.inl ⟨pos_of_significand hpos, hfinite, hpos,
        fun negative => unpack_signAndBits negative hfinite hpos⟩)
  · exact Or.inr (Or.inr ⟨rfl, unpack_infinity⟩)

theorem compare_signedBits_same (negative : Bool) (bits bits' : Nat) :
    compare (signedBits negative bits) (signedBits negative bits') =
      if negative then (compare bits bits').swap else compare bits bits' := by
  rcases Nat.lt_trichotomy bits bits' with h | rfl | h
  · rw [Nat.compare_eq_lt.mpr h]
    cases negative
    · exact Int.compare_eq_lt.mpr (Int.ofNat_lt.mpr h)
    · exact Int.compare_eq_gt.mpr (Int.neg_lt_neg (Int.ofNat_lt.mpr h))
  · rw [Nat.compare_eq_eq.mpr rfl, Int.compare_eq_eq.mpr rfl]
    cases negative <;> rfl
  · rw [Nat.compare_eq_gt.mpr h]
    cases negative
    · exact Int.compare_eq_gt.mpr (Int.ofNat_lt.mpr h)
    · exact Int.compare_eq_lt.mpr (Int.neg_lt_neg (Int.ofNat_lt.mpr h))

/-- Values are in the order of their signed bits. -/
theorem compare_signedBits (negative negative' : Bool) (h : bits ≤ Magnitude.infinityBits)
    (h' : bits' ≤ Magnitude.infinityBits) :
    (ofSignAndBits negative bits).toModel.unpack.compare (ofSignAndBits negative' bits').toModel.unpack =
      some (compare (signedBits negative bits) (signedBits negative' bits')) := by
  have hpos : 0 < Magnitude.infinityBits := by decide
  have hless {c c' : Int} (h : c < c') : some Ordering.lt = some (compare c c') := by
    rw [Int.compare_eq_lt.mpr h]
  have hmore {c c' : Int} (h : c' < c) : some Ordering.gt = some (compare c c') := by
    rw [Int.compare_eq_gt.mpr h]
  have hsame (c : Int) : some Ordering.eq = some (compare c c) := by
    rw [Int.compare_eq_eq.mpr rfl]
  rcases unpack_cases h with ⟨rfl, hu⟩ | ⟨hbits, hfinite, hsignificand, hu⟩ | ⟨rfl, hu⟩ <;>
    rcases unpack_cases h' with ⟨rfl, hu'⟩ | ⟨hbits', hfinite', hsignificand', hu'⟩ | ⟨rfl, hu'⟩ <;>
    rw [hu, hu']
  case inr.inl.inr.inl =>
    have hcompare := compare_bits (Magnitude.isCanonical_ofBits bits) (Magnitude.isCanonical_ofBits bits')
    rw [Magnitude.bits_ofBits hfinite, Magnitude.bits_ofBits hfinite'] at hcompare
    cases negative <;> cases negative'
    · rw [compare_signedBits_same, if_neg Bool.false_ne_true, ← hcompare]
      rfl
    · exact hmore (by rw [signedBits_false, signedBits_true]; omega)
    · exact hless (by rw [signedBits_false, signedBits_true]; omega)
    · rw [compare_signedBits_same, if_pos rfl, ← hcompare]
      rfl
  all_goals
    cases negative <;> cases negative' <;>
      first
      | exact hless (by simp only [signedBits_true, signedBits_false]; omega)
      | exact hmore (by simp only [signedBits_true, signedBits_false]; omega)
      | exact hsame _

theorem le_signAndBits (negative negative' : Bool) (h : bits ≤ Magnitude.infinityBits)
    (h' : bits' ≤ Magnitude.infinityBits) : ofSignAndBits negative bits ≤ ofSignAndBits negative' bits' ↔
      signedBits negative bits ≤ signedBits negative' bits' := by
  rw [le_iff_compare, compare_signedBits negative negative' h h', Option.any_some, Int.isLE_compare]

theorem lt_signAndBits (h : bits ≤ Magnitude.infinityBits) (h' : bits' ≤ Magnitude.infinityBits) :
    ofSignAndBits false bits < ofSignAndBits false bits' ↔ bits < bits' := by
  rw [lt_iff_compare, compare_signedBits false false h h', Option.some.injEq, Int.compare_eq_lt, signedBits_false,
    signedBits_false, Int.ofNat_lt]

end

end SciCalc.Decimal
