import SciCalc.Proofs.PrintedNumbers
import SciCalc.Proofs.RoundedValues
import SciCalc.Proofs.TidyTexts

/-!
# Shown texts

A value is shown by the tidy text of the value to which it is rounded, and this is read from the text. So values are shown
alike only if they are rounded alike or shown as zero, and what is read from a text is shown by the same text.
-/

namespace SciCalc.Decimal

theorem Digits.digits_significant_le (x : Magnitude) (count : Nat) :
    (significant x (count + 1)).digits ≤ tenTo (count + 1) := by
  rw [significant_eq]
  split
  · exact tenTo_le (Nat.le_succ count)
  · exact uncarried_le x (count + 1)

end SciCalc.Decimal

namespace SciCalc.Display

open Decimal

/-- The text shows the value: it is read as it, has no more digits than asked for and nothing needless, and an exponent
exactly if the value is very small or very large. -/
structure Shows (precision : Int) (value : Float) (shown : String) : Prop where
  read : readFloat? shown = some value
  tidy : IsTidy precision.toNat (mantissa shown.toList)
  exponent : 'e' ∈ shown.toList ↔ value.abs < 1e-9 ∨ 1e15 ≤ value.abs

theorem needsExponent_iff (value : Float) : needsExponent value = true ↔ value.abs < 1e-9 ∨ 1e15 ≤ value.abs := by
  simp only [needsExponent, Bool.or_eq_true, decide_eq_true_iff]

section

variable {count bits : Nat} {negative : Bool}

theorem shows_scientific (hne : bits ≠ 0) (hagain : roundedBits count bits = bits)
    (hexponent : needsExponent (ofSignAndBits negative bits) = true) :
    Shows (count + 1 : Nat) (ofSignAndBits negative bits)
      (String.ofList (Layout.signed negative (layout.scientific (Digits.significant (.ofBits bits) (count + 1)).trim))) := by
  have hdigits : (Digits.significant (.ofBits bits) (count + 1)).digits ≠ 0 := by
    intro hzero
    rw [roundedBits, Digits.nearestBits_of_digits_zero hzero] at hagain
    exact hne hagain.symm
  refine ⟨?_, ?_, ?_⟩
  · rw [Layout.readFloat?_scientific layout _ String.toList_ofList, Digits.toFloat, ← (Digits.same_trim _).nearestBits_eq]
    exact congrArg (fun bits => some (ofSignAndBits negative bits)) hagain
  · rw [String.toList_ofList]
    have htidy := Layout.isTidy_mantissa_scientific layout (Digits.isTrimmed_trim hdigits) negative
    exact htidy.mono (Digits.length_trim_le (Digits.digits_significant_le _ count))
  · rw [String.toList_ofList, e_mem_signed, ← needsExponent_iff]
    exact iff_of_true (e_mem_scientific _ _) hexponent

theorem shows_positional (h : bits < Magnitude.infinityBits) (hne : bits ≠ 0) (hcount : count ≤ 16)
    (hagain : roundedBits count bits = bits) (hexponent : needsExponent (ofSignAndBits negative bits) = false) :
    Shows (count + 1 : Nat) (ofSignAndBits negative bits) (positionalText (ofSignAndBits negative bits)) := by
  have htext := toList_positionalText negative h
  have hcanonical := Magnitude.isCanonical_ofBits bits
  have hbits := Magnitude.bits_ofBits h
  have hfinite : (Magnitude.ofBits bits).bits < Magnitude.infinityBits := by rwa [hbits]
  have hnumeral := Layout.isNumeral_positional { plain with pointZero := false } (.shortest (.ofBits bits))
  have hno : 'e' ∉ (positionalText (ofSignAndBits negative bits)).toList := by
    rw [htext, e_mem_signed]
    exact e_not_mem_of_isNumeral hnumeral
  refine ⟨?_, ?_, ?_⟩
  · rw [readFloat?_signed_numeral hnumeral htext, Digits.toFloat, nearestBits_positional _ hcanonical hfinite, hbits]
  · have htrimmed := Digits.isTrimmed_shortest hcanonical hfinite (by rwa [hbits])
    have hfew := Digits.length_shortest_le hcanonical hfinite hcount (hagain.trans hbits.symm)
    rw [mantissa_eq_self hno, htext]
    exact ((Layout.isTidy_positional rfl htrimmed).mono hfew).signed hnumeral.ne_nil negative
  · rw [← needsExponent_iff]
    exact iff_of_false hno (by rw [hexponent]; exact Bool.false_ne_true)

/-- A rounded value other than zero has a text that shows it. -/
theorem exists_shows (h : bits < Magnitude.infinityBits) (hne : bits ≠ 0) (hcount : count ≤ 16)
    (hagain : roundedBits count bits = bits) : ∃ shown,
      (if needsExponent (ofSignAndBits negative bits) then scientificText (count + 1 : Nat) (ofSignAndBits negative bits)
        else .ok (positionalText (ofSignAndBits negative bits))) = .ok shown ∧
      Shows (count + 1 : Nat) (ofSignAndBits negative bits) shown := by
  cases hexponent : needsExponent (ofSignAndBits negative bits) with
  | true =>
    refine ⟨_, ?_, shows_scientific hne hagain hexponent⟩
    rw [if_pos rfl, scientificText_eq hcount, isInf_of_isFinite (isFinite_signAndBits negative h),
      if_neg Bool.false_ne_true, isNegative_signAndBits negative h, magnitude_signAndBits negative h]
  | false => exact ⟨_, if_neg Bool.false_ne_true, shows_positional h hne hcount hagain hexponent⟩

theorem readFloat?_zero : readFloat? "0" = some (ofSignAndBits false 0) := by
  have hzero : Token.IsNumeral "0".toList := @Token.isNumeral_digit '0' rfl
  rw [readFloat?_numeral hzero]
  rfl

/-- Only zero is rounded to zero. -/
theorem roundedBits_ne_zero (hcount : count ≤ 16) (h : bits < Magnitude.infinityBits) (hne : bits ≠ 0) :
    roundedBits count bits ≠ 0 := by
  have hleast : ∀ count < 17, roundedBits count 1 ≠ 0 := by decide +kernel
  have hone := hleast count (Nat.lt_succ_of_le hcount)
  have hle : roundedBits count 1 ≤ roundedBits count bits := roundedBits_le (Nat.pos_of_ne_zero hne) h
  omega

theorem rounded_of_few (hcount : count ≤ 16) (negative : Bool) (h : bits < Magnitude.infinityBits) :
    rounded (count + 1 : Nat) (ofSignAndBits negative bits) = .ok (ofSignAndBits negative (roundedBits count bits)) :=
  rounded_signAndBits (by omega) (digitCount_eq (Nat.succ_le_succ hcount)) negative h

/-- Zero and what is below the threshold are shown as zero. -/
theorem text_of_small {threshold x : Float} (h : x.abs < threshold ∨ (x == 0) = true) :
    text (count + 1 : Nat) threshold x = .ok "0" := by
  by_cases hsmall : x.abs < threshold
  · exact if_pos hsmall
  · have hzero : (x == 0) = true := h.resolve_left hsmall
    have hrounded : rounded (count + 1 : Nat) x = .ok x := by
      rw [rounded, hzero]
      rfl
    rw [text_of_rounded hsmall hrounded, if_pos hzero]

theorem exists_text (hcount : count ≤ 16) (h : bits < Magnitude.infinityBits) (hne : bits ≠ 0)
    (hfinite : roundedBits count bits < Magnitude.infinityBits) {threshold : Float}
    (hsmall : ¬(ofSignAndBits negative bits).abs < threshold) : ∃ shown,
      text (count + 1 : Nat) threshold (ofSignAndBits negative bits) = .ok shown ∧ shown ≠ "0" ∧
      Shows (count + 1 : Nat) (ofSignAndBits negative (roundedBits count bits)) shown := by
  have hpos := roundedBits_ne_zero hcount h hne
  obtain ⟨shown, htext, hshows⟩ := @exists_shows _ _ negative hfinite hpos hcount (roundedBits_again hfinite)
  refine ⟨shown, ?_, ?_, hshows⟩
  · rw [text_of_rounded hsmall (rounded_of_few hcount negative h), beq_zero negative hfinite, decide_eq_false hpos,
      if_neg Bool.false_ne_true]
    exact htext
  · rintro rfl
    have hread := hshows.read
    rw [readFloat?_zero, Option.some.injEq] at hread
    have hbeq := beq_zero negative hfinite
    have hself : (ofSignAndBits false 0 == 0) = true := rfl
    rw [← hread, hself, decide_eq_false hpos] at hbeq
    exact Bool.noConfusion hbeq

/-- With the threshold zero no value is small. -/
theorem not_abs_lt_of_beq_zero {threshold : Float} (hzero : (threshold == 0) = true) (h : bits < Magnitude.infinityBits) :
    ¬(ofSignAndBits negative bits).abs < threshold := by
  have hcompare : (threshold.toModel.unpack.compare (.zero .positive) == some .eq) = true := hzero
  obtain ⟨s, hs⟩ : ∃ s, threshold.toModel.unpack = .zero s := by
    cases hthreshold : threshold.toModel.unpack with
    | zero s => exact ⟨s, rfl⟩
    | infinity s =>
      rw [hthreshold] at hcompare
      cases s <;> contradiction
    | finite s =>
      rw [hthreshold] at hcompare
      cases s <;> contradiction
    | notANumber =>
      rw [hthreshold] at hcompare
      contradiction
  rw [abs_signAndBits negative h, lt_iff_compare, hs]
  rcases unpack_cases (Nat.le_of_lt h) with ⟨-, hu⟩ | ⟨-, -, hpos, hu⟩ | ⟨rfl, -⟩
  · rw [hu]
    exact fun hless => nomatch hless
  · rw [hu]
    exact fun hless => nomatch hless
  · exact absurd h (Nat.lt_irrefl _)

/-- What is not below the standard threshold is not rounded below it. -/
theorem not_rounded_abs_lt (hcount : count ≤ 16) (h : bits < Magnitude.infinityBits)
    (hfinite : roundedBits count bits < Magnitude.infinityBits)
    (hsmall : ¬(ofSignAndBits negative bits).abs < Settings.standard.zeroThreshold) :
    ¬(ofSignAndBits negative (roundedBits count bits)).abs < Settings.standard.zeroThreshold := by
  have hthreshold : Settings.standard.zeroThreshold = ofSignAndBits false 0x3CD203AF9EE75616 := by rfl
  have hbelow : 0x3CD203AF9EE75616 ≤ Magnitude.infinityBits := by decide
  have hround : ∀ count < 17, roundedBits count 0x3CD203AF9EE75616 = 0x3CD203AF9EE75616 := by decide +kernel
  rw [hthreshold, abs_signAndBits negative h, lt_signAndBits (Nat.le_of_lt h) hbelow] at hsmall
  rw [hthreshold, abs_signAndBits negative hfinite, lt_signAndBits (Nat.le_of_lt hfinite) hbelow,
    ← hround count (Nat.lt_succ_of_le hcount), Nat.not_lt]
  exact roundedBits_le (Nat.not_lt.mp hsmall) h

/-- The text that a rounded value is shown by is that of the value read from it. -/
theorem text_again (hcount : count ≤ 16) (h : bits < Magnitude.infinityBits)
    (hfinite : roundedBits count bits < Magnitude.infinityBits) {threshold : Float}
    (hthreshold : (threshold == 0) = true ∨ threshold = Settings.standard.zeroThreshold)
    (hsmall : ¬(ofSignAndBits negative bits).abs < threshold) :
    text (count + 1 : Nat) threshold (ofSignAndBits negative (roundedBits count bits)) =
      text (count + 1 : Nat) threshold (ofSignAndBits negative bits) := by
  have hsmall' : ¬(ofSignAndBits negative (roundedBits count bits)).abs < threshold := by
    rcases hthreshold with hzero | rfl
    · exact not_abs_lt_of_beq_zero hzero hfinite
    · exact not_rounded_abs_lt hcount h hfinite hsmall
  have hagain := rounded_of_few hcount negative hfinite
  rw [roundedBits_again hfinite] at hagain
  rw [text_of_rounded hsmall (rounded_of_few hcount negative h), text_of_rounded hsmall' hagain]

end

/-- The two ways in which a finite value that is rounded to a finite one is shown. -/
theorem shown_cases {precision : Int} (hlow : 1 ≤ precision) (hhigh : precision ≤ 17) {x value : Float}
    (hx : x.isFinite = true) (hrounded : rounded precision x = .ok value) (hvalue : value.isFinite = true)
    (threshold : Float) :
    ((x.abs < threshold ∨ (x == 0) = true) ∧ text precision threshold x = .ok "0") ∨
    (¬(x.abs < threshold ∨ (x == 0) = true) ∧ ∃ shown, text precision threshold x = .ok shown ∧ shown ≠ "0" ∧
      Shows precision value shown ∧ ((threshold == 0) = true ∨ threshold = Settings.standard.zeroThreshold →
        text precision threshold value = .ok shown)) := by
  obtain ⟨count, hcount, rfl⟩ : ∃ count : Nat, count ≤ 16 ∧ precision = (count + 1 : Nat) :=
    ⟨precision.toNat - 1, by omega, by omega⟩
  obtain ⟨negative, bits, h, rfl⟩ := exists_signAndBits hx
  by_cases hzero : (ofSignAndBits negative bits).abs < threshold ∨ (ofSignAndBits negative bits == 0) = true
  · exact Or.inl ⟨hzero, text_of_small hzero⟩
  · have hsmall : ¬(ofSignAndBits negative bits).abs < threshold := fun hsmall => hzero (Or.inl hsmall)
    have hne : bits ≠ 0 := by
      intro hbits
      apply hzero
      rw [beq_zero negative h, decide_eq_true hbits]
      exact Or.inr rfl
    have hround := rounded_of_few hcount negative h
    rw [hrounded, Except.ok.injEq] at hround
    subst hround
    have hfinite : roundedBits count bits < Magnitude.infinityBits := by
      apply Nat.lt_of_le_of_ne (roundedBits_le_infinityBits count bits)
      intro hinfinite
      have hnone : (ofSignAndBits negative Magnitude.infinityBits).isFinite = false := by cases negative <;> rfl
      rw [hinfinite, hnone] at hvalue
      exact Bool.noConfusion hvalue
    obtain ⟨shown, htext, hshown, hshows⟩ := exists_text hcount h hne hfinite hsmall
    refine Or.inr ⟨hzero, shown, htext, hshown, hshows, ?_⟩
    intro hthreshold
    rw [text_again hcount h hfinite hthreshold hsmall]
    exact htext

/-- A finite value that is rounded to a finite one has a text. It is zero exactly for zero and below the threshold, and
otherwise it shows the rounded value. Values with the same text are rounded alike or shown as zero, and what is read from
the text has the same text for no threshold and the standard one. -/
theorem text_is_canonical {precision : Int} (hlow : 1 ≤ precision) (hhigh : precision ≤ 17) {x value : Float}
    (hx : x.isFinite = true) (hrounded : rounded precision x = .ok value) (hvalue : value.isFinite = true)
    (threshold : Float) : ∃ shown, text precision threshold x = .ok shown ∧
      (shown = "0" ↔ x.abs < threshold ∨ (x == 0) = true) ∧
      (shown ≠ "0" → Shows precision value shown) ∧
      (∀ y value', y.isFinite = true → rounded precision y = .ok value' → value'.isFinite = true →
        text precision threshold y = .ok shown → shown = "0" ∨ value' = value) ∧
      ((threshold == 0) = true ∨ threshold = Settings.standard.zeroThreshold →
        ∃ read, readFloat? shown = some read ∧ text precision threshold read = .ok shown) := by
  rcases shown_cases hlow hhigh hx hrounded hvalue threshold with
    ⟨hzero, htext⟩ | ⟨hzero, shown, htext, hshown, hshows, hagain⟩
  · refine ⟨"0", htext, iff_of_true rfl hzero, fun hne => absurd rfl hne, fun _ _ _ _ _ _ => Or.inl rfl, ?_⟩
    intro _
    obtain ⟨count, rfl⟩ : ∃ count : Nat, precision = (count + 1 : Nat) := ⟨precision.toNat - 1, by omega⟩
    exact ⟨ofSignAndBits false 0, readFloat?_zero, text_of_small (Or.inr rfl)⟩
  · refine ⟨shown, htext, iff_of_false hshown hzero, fun _ => hshows, ?_, ?_⟩
    · intro y value' hy hrounded' hvalue' hsame
      apply Or.inr
      rcases shown_cases hlow hhigh hy hrounded' hvalue' threshold with ⟨-, htext'⟩ | ⟨-, shown', htext', -, hshows', -⟩
      · rw [hsame, Except.ok.injEq] at htext'
        exact absurd htext' hshown
      · rw [hsame, Except.ok.injEq] at htext'
        subst htext'
        have hread := hshows'.read
        rw [hshows.read, Option.some.injEq] at hread
        exact hread.symm
    · intro hthreshold
      exact ⟨value, hshows.read, hagain hthreshold⟩

/-- A third is shown with twelve digits. -/
theorem text_is_canonical_of_third : ∃ shown,
    text 12 Settings.standard.zeroThreshold (ofSignAndBits false 0x3FD5555555555555) = .ok shown ∧
    Shows 12 (ofSignAndBits false 0x3FD5555555553DE1) shown := by
  have hrounded : rounded 12 (ofSignAndBits false 0x3FD5555555555555) = .ok (ofSignAndBits false 0x3FD5555555553DE1) := by
    have hbits : roundedBits 11 0x3FD5555555555555 = 0x3FD5555555553DE1 := by decide +kernel
    rw [← hbits]
    exact rounded_of_few (by decide) false (by decide)
  obtain ⟨shown, htext, hzero, hshows, -⟩ := @text_is_canonical 12 (by decide) (by decide) _ _
    (isFinite_signAndBits false (by decide)) hrounded (isFinite_signAndBits false (by decide))
    Settings.standard.zeroThreshold
  refine ⟨shown, htext, hshows ?_⟩
  rw [Ne, hzero]
  decide +kernel

end SciCalc.Display
