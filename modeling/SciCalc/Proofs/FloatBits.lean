import SciCalc.Decimal.Magnitude

/-!
# Bits of values

A finite value is its sign and the bits of its magnitude. Negation and the absolute value change the sign and
keep the magnitude.
-/

namespace SciCalc.Decimal

open Float.Model Float.Model.UnpackedFloat

/-- A bit pattern by its fields. -/
def fields (s : Sign) (exponent : BitVec 11) (fraction : BitVec 52) : BitVec 64 :=
  packComponents Format.binary64 s exponent fraction

section

variable (s : Sign) (exponent : BitVec 11) (fraction : BitVec 52)

theorem unpackExponent_fields :
    @unpackExponent Format.binary64 (fields s exponent fraction) = exponent :=
  unpackExponent_packComponents

theorem unpackMantissa_fields :
    @unpackMantissa Format.binary64 (fields s exponent fraction) = fraction :=
  unpackMantissa_packComponents

theorem toNat_fields : (fields s exponent fraction).toNat =
    s.toBitVec.toNat * twoTo 63 + exponent.toNat * twoTo 52 + fraction.toNat := by
  have he : exponent.toNat < 2 ^ 11 := exponent.isLt
  have hf : fraction.toNat < 2 ^ 52 := fraction.isLt
  have hupper : (s.toBitVec ++ exponent).toNat = s.toBitVec.toNat * 2 ^ 11 + exponent.toNat := by
    rw [BitVec.toNat_append, ← Nat.shiftLeft_add_eq_or_of_lt he, Nat.shiftLeft_eq]
  have hall : (fields s exponent fraction).toNat =
      (s.toBitVec ++ exponent).toNat * 2 ^ 52 + fraction.toNat := by
    rw [fields, packComponents, BitVec.toNat_append, ← Nat.shiftLeft_add_eq_or_of_lt hf, Nat.shiftLeft_eq]
  have h63 : twoTo 63 = 2 ^ 11 * 2 ^ 52 := rfl
  have h52 : twoTo 52 = 2 ^ 52 := rfl
  rw [hall, hupper, h63, h52, Nat.add_mul, Nat.mul_assoc]

theorem unpackSign_fields :
    Sign.ofBitVec (@unpackSign Format.binary64 (fields s exponent fraction)) = s := by
  have hsign : (@unpackSign Format.binary64 (fields s exponent fraction)).toNat =
      (fields s exponent fraction).toNat / twoTo 63 % 2 := by
    show (fields s exponent fraction).toNat >>> 63 % 2 = _
    rw [Nat.shiftRight_eq_div_pow]
    rfl
  have he : exponent.toNat < 2048 := exponent.isLt
  have hf : fraction.toNat < 4503599627370496 := fraction.isLt
  have h63 : twoTo 63 = 9223372036854775808 := rfl
  have h52 : twoTo 52 = 4503599627370496 := rfl
  rw [toNat_fields, h63, h52] at hsign
  cases s with
  | negative =>
    have hone : (Sign.toBitVec .negative).toNat = 1 := rfl
    rw [hone] at hsign
    have hbit : @unpackSign Format.binary64 (fields .negative exponent fraction) = 1#1 :=
      BitVec.eq_of_toNat_eq (by rw [hsign]; show _ = 1; omega)
    rw [hbit]
    rfl
  | positive =>
    have hzero : (Sign.toBitVec .positive).toNat = 0 := rfl
    rw [hzero] at hsign
    have hbit : @unpackSign Format.binary64 (fields .positive exponent fraction) = 0#1 :=
      BitVec.eq_of_toNat_eq (by rw [hsign]; show _ = 0; omega)
    rw [hbit]
    rfl

end

/-- What the bit patterns with a given magnitude are unpacked to, by their sign. -/
structure Unpacks (exponent : BitVec 11) (fraction : BitVec 52) (u : Sign → UnpackedFloat) : Prop where
  unpack : ∀ s, UnpackedFloat.unpack Format.binary64 (fields s exponent fraction) = u s
  pack : ∀ s, UnpackedFloat.pack Format.binary64 (u s) = fields s exponent fraction
  neg : ∀ s, (u s).neg = u (-s)
  abs : ∀ s, (u s).abs = u .positive
  finite : ∀ s, (u s).isFinite = true

theorem unpacks_zero : Unpacks 0#11 0#52 .zero where
  unpack s := by cases s <;> rfl
  pack _ := rfl
  neg _ := rfl
  abs _ := rfl
  finite _ := rfl

theorem finite_congr {s s' : Sign} {m m' : Nat} {e e' : Int} {h : 0 < m} {h' : 0 < m'} (hs : s = s')
    (hm : m = m') (he : e = e') : UnpackedFloat.finite s m e h = .finite s' m' e' h' := by
  subst hs hm he
  rfl

theorem unpacks_subnormal {fraction : BitVec 52} (hf : 0 < fraction.toNat) :
    Unpacks 0#11 fraction fun s => .finite s fraction.toNat (-1074) hf where
  unpack s := by
    have hne : fraction ≠ 0#52 := by
      rintro rfl
      contradiction
    have hexponent := unpackExponent_fields s 0#11 fraction
    have hmantissa := unpackMantissa_fields s 0#11 fraction
    unfold UnpackedFloat.unpack
    dsimp only
    rw [if_neg (by rw [hexponent]; decide), if_pos hexponent, dif_neg (by rwa [hmantissa])]
    refine finite_congr (unpackSign_fields s 0#11 fraction) (congrArg BitVec.toNat hmantissa) ?_
    rw [hexponent]
    rfl
  pack s := by
    have hlt : fraction.toNat < 2 ^ 52 := fraction.isLt
    have hlog : fraction.toNat.log2 < 52 := (Nat.log2_lt (Nat.ne_of_gt hf)).mpr hlt
    have hbits : fraction.toNat.log2 + 1 ≠ Format.binary64.mantissaBits := by
      show fraction.toNat.log2 + 1 ≠ 53
      omega
    unfold UnpackedFloat.pack
    dsimp only
    rw [if_neg (by decide), if_neg hbits, BitVec.ofNat_toNat, BitVec.setWidth_eq]
    rfl
  neg _ := rfl
  abs _ := rfl
  finite _ := rfl

theorem toNat_one_append (fraction : BitVec 52) : (1#1 ++ fraction).toNat = twoTo 52 + fraction.toNat := by
  rw [BitVec.toNat_append, ← Nat.shiftLeft_add_eq_or_of_lt fraction.isLt]
  rfl

theorem toNat_one_append_pos (fraction : BitVec 52) : 0 < (1#1 ++ fraction).toNat := by
  have h52 : twoTo 52 = 4503599627370496 := rfl
  rw [toNat_one_append, h52]
  omega

theorem unpacks_normal {exponent : BitVec 11} (fraction : BitVec 52) (hzero : exponent ≠ 0#11)
    (hones : exponent ≠ -1#11) : Unpacks exponent fraction fun s =>
      .finite s (1#1 ++ fraction).toNat (exponent.toNat - 1075) (toNat_one_append_pos fraction) where
  unpack s := by
    have hexponent := unpackExponent_fields s exponent fraction
    have hmantissa := unpackMantissa_fields s exponent fraction
    unfold UnpackedFloat.unpack
    dsimp only
    rw [if_neg (by rwa [hexponent]), if_neg (by rwa [hexponent])]
    refine finite_congr (unpackSign_fields s exponent fraction) ?_ ?_
    · exact congrArg (fun m : BitVec 52 => (1#1 ++ m).toNat) hmantissa
    · rw [hexponent]
      rfl
  pack s := by
    have hlt : fraction.toNat < 4503599627370496 := fraction.isLt
    have h52 : twoTo 52 = 4503599627370496 := rfl
    have hones' : exponent.toNat ≠ 2047 := fun h => hones (BitVec.eq_of_toNat_eq h)
    have helt : exponent.toNat < 2048 := exponent.isLt
    have hbits : (1#1 ++ fraction).toNat.log2 + 1 = Format.binary64.mantissaBits := by
      have hlog : (1#1 ++ fraction).toNat.log2 = 52 := by
        rw [toNat_one_append, h52, Nat.log2_eq_iff (by omega)]
        omega
      rw [hlog]
      rfl
    have hbiased : ((exponent.toNat : Int) - 1075 + Format.binary64.exponentBias +
        Format.binary64.mantissaBitsWithoutImplicit).toNat = exponent.toNat := by
      show ((exponent.toNat : Int) - 1075 + 1023 + 52).toNat = exponent.toNat
      omega
    have hfraction : BitVec.ofNat 52 (1#1 ++ fraction).toNat = fraction := by
      apply BitVec.eq_of_toNat_eq
      rw [BitVec.toNat_ofNat, toNat_one_append, h52]
      show (4503599627370496 + fraction.toNat) % 4503599627370496 = fraction.toNat
      omega
    have hfinite : ¬2 ^ Format.binary64.exponentBits ≤ exponent.toNat + 1 := by
      show ¬2048 ≤ exponent.toNat + 1
      omega
    unfold UnpackedFloat.pack
    simp only [hbiased]
    rw [if_neg hfinite, if_pos hbits, BitVec.ofNat_toNat, BitVec.setWidth_eq]
    exact congrArg (packComponents Format.binary64 s exponent) hfraction
  neg _ := rfl
  abs _ := rfl
  finite _ := rfl

/-- A bit pattern whose exponent field is not full is that of a finite value. -/
theorem exists_unpacks {exponent : BitVec 11} (fraction : BitVec 52) (hones : exponent ≠ -1#11) :
    ∃ u, Unpacks exponent fraction u := by
  by_cases hzero : exponent = 0#11
  · subst hzero
    by_cases hf : fraction = 0#52
    · subst hf
      exact ⟨_, unpacks_zero⟩
    · have hpos : 0 < fraction.toNat :=
        Nat.pos_of_ne_zero fun h => hf (BitVec.eq_of_toNat_eq h)
      exact ⟨_, unpacks_subnormal hpos⟩
  · exact ⟨_, unpacks_normal fraction hzero hones⟩

/-- The sign of a value. -/
def signOf (negative : Bool) : Sign := if negative then .negative else .positive

theorem neg_signOf (negative : Bool) : -signOf negative = signOf !negative := by
  cases negative <;> rfl

theorem exponentField_ne {bits : Nat} (h : bits < Magnitude.infinityBits) :
    BitVec.ofNat 11 (bits / twoTo 52) ≠ -1#11 := by
  have h52 : twoTo 52 = 4503599627370496 := rfl
  have hinf : Magnitude.infinityBits = 9218868437227405312 := rfl
  intro e
  have hfield : bits / twoTo 52 % 2048 = 2047 := congrArg BitVec.toNat e
  rw [h52] at hfield
  omega

theorem toBitVec_signAndBits (negative : Bool) {bits : Nat} (h : bits < Magnitude.infinityBits) :
    (UInt64.ofNat (if negative then twoTo 63 + bits else bits)).toBitVec =
      fields (signOf negative) (BitVec.ofNat 11 (bits / twoTo 52)) (BitVec.ofNat 52 bits) := by
  have h52 : twoTo 52 = 4503599627370496 := rfl
  have h63 : twoTo 63 = 9223372036854775808 := rfl
  have hinf : Magnitude.infinityBits = 9218868437227405312 := rfl
  apply BitVec.eq_of_toNat_eq
  rw [toNat_fields, UInt64.toNat_toBitVec, UInt64.toNat_ofNat', BitVec.toNat_ofNat, BitVec.toNat_ofNat,
    h52, h63]
  cases negative with
  | true =>
    show (9223372036854775808 + bits) % 18446744073709551616 = 1 * 9223372036854775808 +
      bits / 4503599627370496 % 2048 * 4503599627370496 + bits % 4503599627370496
    omega
  | false =>
    show bits % 18446744073709551616 = 0 * 9223372036854775808 +
      bits / 4503599627370496 % 2048 * 4503599627370496 + bits % 4503599627370496
    omega

section

variable {bits : Nat}

/-- A finite value as it is unpacked, and what else has its magnitude. -/
theorem exists_unpacks_signAndBits (h : bits < Magnitude.infinityBits) :
    ∃ u : Sign → UnpackedFloat, (∀ s, (u s).neg = u (-s)) ∧ (∀ s, (u s).abs = u .positive) ∧
      (∀ s, (u s).isFinite = true) ∧ ∀ negative,
        ofSignAndBits negative bits = .ofModel (.pack (u (signOf negative))) ∧
        (ofSignAndBits negative bits).toModel.unpack = u (signOf negative) ∧
        (ofSignAndBits negative bits).toBits.toBitVec =
          fields (signOf negative) (BitVec.ofNat 11 (bits / twoTo 52)) (BitVec.ofNat 52 bits) := by
  obtain ⟨u, hu⟩ := exists_unpacks (BitVec.ofNat 52 bits) (exponentField_ne h)
  refine ⟨u, hu.neg, hu.abs, hu.finite, fun negative => ?_⟩
  have hmodel : ofSignAndBits negative bits = .ofModel (.pack (u (signOf negative))) := by
    show Float.ofModel (.pack (.unpack Format.binary64 (UInt64.ofNat _).toBitVec)) = _
    rw [toBitVec_signAndBits negative h, hu.unpack]
  refine ⟨hmodel, ?_, ?_⟩
  · rw [hmodel]
    show UnpackedFloat.unpack Format.binary64 (UnpackedFloat.pack Format.binary64 (u _)) = _
    rw [hu.pack, hu.unpack]
  · rw [hmodel]
    exact hu.pack _

theorem toBits_signAndBits (negative : Bool) (h : bits < Magnitude.infinityBits) :
    (ofSignAndBits negative bits).toBits.toNat = if negative then twoTo 63 + bits else bits := by
  obtain ⟨u, -, -, -, hu⟩ := exists_unpacks_signAndBits h
  have hpattern := (hu negative).2.2
  rw [← toBitVec_signAndBits negative h] at hpattern
  have hbits := congrArg BitVec.toNat hpattern
  rw [UInt64.toNat_toBitVec, UInt64.toNat_toBitVec, UInt64.toNat_ofNat'] at hbits
  have h63 : twoTo 63 = 9223372036854775808 := rfl
  have hinf : Magnitude.infinityBits = 9218868437227405312 := rfl
  rw [hbits]
  cases negative with
  | true =>
    show (twoTo 63 + bits) % 18446744073709551616 = twoTo 63 + bits
    omega
  | false =>
    show bits % 18446744073709551616 = bits
    omega

theorem neg_signAndBits (negative : Bool) (h : bits < Magnitude.infinityBits) :
    -ofSignAndBits negative bits = ofSignAndBits (!negative) bits := by
  obtain ⟨u, hneg, -, -, hu⟩ := exists_unpacks_signAndBits h
  rw [(hu !negative).1]
  show Float.ofModel (.pack (ofSignAndBits negative bits).toModel.unpack.neg) = _
  rw [(hu negative).2.1, hneg, neg_signOf]

theorem abs_signAndBits (negative : Bool) (h : bits < Magnitude.infinityBits) :
    (ofSignAndBits negative bits).abs = ofSignAndBits false bits := by
  obtain ⟨u, -, habs, -, hu⟩ := exists_unpacks_signAndBits h
  rw [(hu false).1]
  show Float.ofModel (.pack (ofSignAndBits negative bits).toModel.unpack.abs) = _
  rw [(hu negative).2.1, habs]
  rfl

theorem isFinite_signAndBits (negative : Bool) (h : bits < Magnitude.infinityBits) :
    (ofSignAndBits negative bits).isFinite = true := by
  obtain ⟨u, -, -, hfinite, hu⟩ := exists_unpacks_signAndBits h
  show (ofSignAndBits negative bits).toModel.unpack.isFinite = true
  rw [(hu negative).2.1, hfinite]

theorem isNegative_signAndBits (negative : Bool) (h : bits < Magnitude.infinityBits) :
    isNegative (ofSignAndBits negative bits) = negative := by
  have h63 : twoTo 63 = 9223372036854775808 := rfl
  have hinf : Magnitude.infinityBits = 9218868437227405312 := rfl
  rw [isNegative, toBits_signAndBits negative h]
  cases negative with
  | true =>
    have hone : (twoTo 63 + bits) / twoTo 63 = 1 := by
      rw [h63]
      omega
    exact decide_eq_true hone
  | false =>
    have hzero : ¬bits / twoTo 63 = 1 := by
      rw [h63]
      omega
    exact decide_eq_false hzero

theorem magnitude_signAndBits (negative : Bool) (h : bits < Magnitude.infinityBits) :
    magnitude (ofSignAndBits negative bits) = .ofBits bits := by
  have h63 : twoTo 63 = 9223372036854775808 := rfl
  have hinf : Magnitude.infinityBits = 9218868437227405312 := rfl
  rw [magnitude, toBits_signAndBits negative h]
  cases negative with
  | true =>
    have hmod : (twoTo 63 + bits) % twoTo 63 = bits := by
      rw [h63]
      omega
    exact congrArg Magnitude.ofBits hmod
  | false =>
    have hmod : bits % twoTo 63 = bits := by
      rw [h63]
      omega
    exact congrArg Magnitude.ofBits hmod

end

/-- A finite value is neither infinite nor no number. -/
theorem isNaN_of_isFinite {x : Float} (h : x.isFinite = true) : x.isNaN = false := by
  show x.toModel.unpack.isNaN = false
  have hu : x.toModel.unpack.isFinite = true := h
  cases hx : x.toModel.unpack with
  | notANumber =>
    rw [hx] at hu
    contradiction
  | _ => rfl

theorem isInf_of_isFinite {x : Float} (h : x.isFinite = true) : x.isInf = false := by
  show x.toModel.unpack.isInf = false
  have hu : x.toModel.unpack.isFinite = true := h
  cases hx : x.toModel.unpack with
  | infinity s =>
    rw [hx] at hu
    contradiction
  | _ => rfl

theorem eq_of_toBits {x y : Float} (h : x.toBits.toNat = y.toBits.toNat) : x = y := by
  obtain ⟨⟨xbits, hx⟩⟩ := x
  obtain ⟨⟨ybits, hy⟩⟩ := y
  have hbits : xbits = ybits := UInt64.toNat_inj.mp h
  subst hbits
  rfl

theorem exponentField_lt_of_isFinite {x : Float} (h : x.isFinite = true) :
    x.toBits.toNat / twoTo 52 % twoTo 11 < 2047 := by
  have hu : (UnpackedFloat.unpack Format.binary64 x.toBits.toBitVec).isFinite = true := h
  have hfield : (@unpackExponent Format.binary64 x.toBits.toBitVec).toNat =
      x.toBits.toNat / twoTo 52 % twoTo 11 := by
    show x.toBits.toNat >>> 52 % 2 ^ 11 = _
    rw [Nat.shiftRight_eq_div_pow]
    rfl
  have hones : @unpackExponent Format.binary64 x.toBits.toBitVec ≠ -1#11 := by
    intro e
    unfold UnpackedFloat.unpack at hu
    dsimp only at hu
    rw [if_pos e] at hu
    split at hu <;> contradiction
  have hne : (@unpackExponent Format.binary64 x.toBits.toBitVec).toNat ≠ 2047 :=
    fun e => hones (BitVec.eq_of_toNat_eq e)
  have hlt := (@unpackExponent Format.binary64 x.toBits.toBitVec).isLt
  have hlt' : (@unpackExponent Format.binary64 x.toBits.toBitVec).toNat < 2048 := hlt
  omega

/-- Every finite value is that of its sign and the bits of its magnitude. -/
theorem exists_signAndBits {x : Float} (h : x.isFinite = true) :
    ∃ negative bits, bits < Magnitude.infinityBits ∧ x = ofSignAndBits negative bits := by
  have h52 : twoTo 52 = 4503599627370496 := rfl
  have h11 : twoTo 11 = 2048 := rfl
  have h63 : twoTo 63 = 9223372036854775808 := rfl
  have hinf : Magnitude.infinityBits = 9218868437227405312 := rfl
  have hfield := exponentField_lt_of_isFinite h
  have hlt : x.toBits.toNat < 18446744073709551616 := x.toBits.toNat_lt
  rw [h52, h11] at hfield
  have hbits : x.toBits.toNat % twoTo 63 < Magnitude.infinityBits := by
    rw [h63]
    omega
  refine ⟨isNegative x, x.toBits.toNat % twoTo 63, hbits, eq_of_toBits ?_⟩
  rw [toBits_signAndBits _ hbits, h63]
  by_cases hsign : x.toBits.toNat / twoTo 63 = 1
  · rw [isNegative, decide_eq_true hsign, if_pos rfl]
    rw [h63] at hsign
    omega
  · rw [isNegative, decide_eq_false hsign, if_neg Bool.false_ne_true]
    rw [h63] at hsign
    omega

end SciCalc.Decimal
