import SciCalc.Proofs.FloatBits
import SciCalc.Proofs.PositionalText
import SciCalc.Tree.Printer

/-!
# Printed numbers

A finite value is printed as a numeral, between parentheses and behind a minus if it is negative. The numeral is
read as the absolute value.
-/

namespace SciCalc.Decimal

/-- The numeral of a magnitude: that of its plain text, without an exponent. -/
def numeralOf (x : Magnitude) : List Char :=
  if plain.isPositional (.shortest x) then plain.positional (.shortest x)
  else { plain with pointZero := false }.positional (.shortest x)

theorem isNumeral_numeralOf (x : Magnitude) : Token.IsNumeral (numeralOf x) := by
  unfold numeralOf
  split <;> exact Layout.isNumeral_positional _ _

theorem e_not_mem_of_isNumeral {s : List Char} (h : Token.IsNumeral s) : 'e' ∉ s :=
  fun he => absurd (h.chars 'e' he) (by decide)

theorem e_mem_scientific (layout : Layout) (d : Digits) : 'e' ∈ layout.scientific d :=
  List.mem_append_right _ List.mem_cons_self

theorem e_mem_signed (negative : Bool) (text : List Char) :
    'e' ∈ Layout.signed negative text ↔ 'e' ∈ text := by
  cases negative with
  | true => simp [Layout.signed]
  | false => rfl

section

variable {bits : Nat}

/-- The numeral of a finite magnitude is read as its value. -/
theorem toFloat_numeralOf (h : bits < Magnitude.infinityBits) :
    Digits.toFloat false (.ofNumeral (numeralOf (.ofBits bits))) = ofSignAndBits false bits := by
  have hx := Magnitude.isCanonical_ofBits bits
  have hbits := Magnitude.bits_ofBits h
  have hfinite : (Magnitude.ofBits bits).bits < Magnitude.infinityBits := by rwa [hbits]
  have hnearest : (Digits.ofNumeral (numeralOf (.ofBits bits))).nearestBits = bits := by
    unfold numeralOf
    split <;> exact (nearestBits_positional _ hx hfinite).trans hbits
  rw [Digits.toFloat, hnearest]

theorem toList_plainText (negative : Bool) (h : bits < Magnitude.infinityBits) :
    (plainText (ofSignAndBits negative bits)).toList =
      Layout.signed negative (plain.write (.shortest (.ofBits bits))) := by
  have hfinite := isFinite_signAndBits negative h
  simp only [plainText, isNaN_of_isFinite hfinite, isInf_of_isFinite hfinite, Bool.false_eq_true, if_false,
    magnitude_signAndBits negative h, isNegative_signAndBits negative h, String.toList_ofList]

theorem toList_positionalText (negative : Bool) (h : bits < Magnitude.infinityBits) :
    (positionalText (ofSignAndBits negative bits)).toList =
      Layout.signed negative ({ plain with pointZero := false }.positional (.shortest (.ofBits bits))) := by
  have hfinite := isFinite_signAndBits negative h
  simp only [positionalText, isNaN_of_isFinite hfinite, isInf_of_isFinite hfinite, Bool.false_eq_true,
    if_false, magnitude_signAndBits negative h, isNegative_signAndBits negative h, String.toList_ofList]

/-- A finite value is printed as the numeral of its magnitude. -/
theorem toList_printNumber (negative : Bool) (h : bits < Magnitude.infinityBits) :
    (Tree.printNumber (ofSignAndBits negative bits)).toList =
      if negative then '(' :: '-' :: (numeralOf (.ofBits bits) ++ [')']) else numeralOf (.ofBits bits) := by
  have hfinite := isFinite_signAndBits negative h
  have htext : (if (ofSignAndBits negative bits).isFinite &&
      !(plainText (ofSignAndBits negative bits)).toList.contains 'e'
      then plainText (ofSignAndBits negative bits) else positionalText (ofSignAndBits negative bits)).toList =
      Layout.signed negative (numeralOf (.ofBits bits)) := by
    have hcontains : (plainText (ofSignAndBits negative bits)).toList.contains 'e' =
        !plain.isPositional (.shortest (.ofBits bits)) := by
      rw [toList_plainText negative h, Layout.write, List.contains_eq_mem]
      cases plain.isPositional (.shortest (.ofBits bits)) with
      | true =>
        have hnumeral := Layout.isNumeral_positional plain (.shortest (.ofBits bits))
        exact decide_eq_false fun he => e_not_mem_of_isNumeral hnumeral ((e_mem_signed negative _).mp he)
      | false => exact decide_eq_true ((e_mem_signed negative _).mpr (e_mem_scientific _ _))
    rw [hfinite, hcontains, Bool.not_not, Bool.true_and]
    cases hpositional : plain.isPositional (.shortest (.ofBits bits)) with
    | true =>
      rw [if_pos rfl, toList_plainText negative h, Layout.write, numeralOf, hpositional]
      rfl
    | false =>
      rw [if_neg Bool.false_ne_true, toList_positionalText negative h, numeralOf, hpositional]
      rfl
  simp only [Tree.printNumber, isNaN_of_isFinite hfinite, isNegative_signAndBits negative h, Bool.not_false,
    Bool.and_true]
  generalize (if (ofSignAndBits negative bits).isFinite &&
      !(plainText (ofSignAndBits negative bits)).toList.contains 'e'
      then plainText (ofSignAndBits negative bits) else positionalText (ofSignAndBits negative bits)) = text
    at htext ⊢
  cases negative with
  | true =>
    show ("(" ++ text ++ ")").toList = _
    rw [String.toList_append, String.toList_append, htext]
    rfl
  | false => exact htext

end

end SciCalc.Decimal
