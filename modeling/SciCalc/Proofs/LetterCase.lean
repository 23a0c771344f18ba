import SciCalc.Proofs.BadCharacters
import SciCalc.Proofs.PlainTexts
import SciCalc.Text.Lower

/-!
# Letter case

What does not change when ASCII letters change their case: how a text is cut into tokens, and the lower-case form of a
name.
-/

namespace SciCalc.Token

section

variable {c c' : Char}

theorem toLower_of_isUpper_eq_false (h : c.isUpper = false) : c.toLower = c :=
  dif_neg (of_decide_eq_false h)

theorem isAlpha_toLower_of_isUpper (h : c.isUpper = true) : c.toLower.isAlpha = true := by
  have hcapital : c.val ≥ 'A'.val ∧ c.val ≤ 'Z'.val := of_decide_eq_true h
  have hbounds : 65 ≤ c.val.toNat ∧ c.val.toNat ≤ 90 := hcapital
  have hval : c.toLower.val = c.val + 32 := congrArg Char.val (dif_pos hcapital)
  have hadd : c.toLower.val.toNat = c.val.toNat + 32 := by
    have hstep : UInt32.toNat 32 = 32 := rfl
    rw [hval, UInt32.toNat_add, hstep, Nat.mod_eq_of_lt (by omega)]
  have hsmall : 97 ≤ c.toLower.val.toNat ∧ c.toLower.val.toNat ≤ 122 := by omega
  have hlower : c.toLower.isLower = true :=
    Bool.and_eq_true_iff.mpr ⟨decide_eq_true hsmall.1, decide_eq_true hsmall.2⟩
  exact Bool.or_eq_true_iff.mpr (Or.inr hlower)

theorem isAlpha_toLower (c : Char) : c.toLower.isAlpha = c.isAlpha := by
  by_cases h : c.isUpper = true
  · rw [isAlpha_toLower_of_isUpper h]
    exact (Bool.or_eq_true_iff.mpr (Or.inl h)).symm
  · rw [toLower_of_isUpper_eq_false (Bool.eq_false_iff.mpr h)]

theorem isAlpha_eq_of_toLower_eq (h : c'.toLower = c.toLower) : c'.isAlpha = c.isAlpha := by
  rw [← isAlpha_toLower, h, isAlpha_toLower]

theorem toLower_of_isAlpha_eq_false (h : c.isAlpha = false) : c.toLower = c :=
  toLower_of_isUpper_eq_false (Bool.or_eq_false_iff.mp h).1

theorem eq_of_toLower_eq (h : c'.toLower = c.toLower) (hc : c.isAlpha = false) : c' = c := by
  have hc' : c'.isAlpha = false := (isAlpha_eq_of_toLower_eq h).trans hc
  rw [← toLower_of_isAlpha_eq_false hc', h, toLower_of_isAlpha_eq_false hc]

/-- What has one value for all letters does not tell capitals from small letters. -/
theorem congr_toLower {α : Type} {f : Char → α} {value : α} (hletters : ∀ c, c.isAlpha → f c = value)
    (h : c'.toLower = c.toLower) : f c' = f c := by
  by_cases hc : c.isAlpha = true
  · have hc' : c'.isAlpha = true := (isAlpha_eq_of_toLower_eq h).trans hc
    rw [hletters c hc, hletters c' hc']
  · rw [eq_of_toLower_eq h (Bool.eq_false_iff.mpr hc)]

theorem isIdentifierStart_of_isAlpha (h : c.isAlpha = true) : isIdentifierStart c = true :=
  Bool.or_eq_true_iff.mpr (Or.inl h)

theorem isIdentifierPart_of_isAlpha (h : c.isAlpha = true) : isIdentifierPart c = true :=
  isIdentifierPart_of_isIdentifierStart (isIdentifierStart_of_isAlpha h)

theorem isNumeralChar_of_isAlpha (h : c.isAlpha = true) : isNumeralChar c = false :=
  isNumeralChar_of_isIdentifierStart (isIdentifierStart_of_isAlpha h)

theorem isBlank_of_isAlpha (h : c.isAlpha = true) : Text.isBlank c = false :=
  isBlank_of_isWordChar (isWordChar_of_isIdentifierPart (isIdentifierPart_of_isAlpha h))

/-- What holds of no letter holds of characters that have no case. -/
theorem eq_of_not_letter {p : Char → Bool} (hletters : ∀ c, c.isAlpha → p c = false)
    (h : c'.toLower = c.toLower) (hc : p c = true) : c' = c := by
  refine eq_of_toLower_eq h (Bool.eq_false_iff.mpr fun hletter => ?_)
  rw [hletters c hletter] at hc
  contradiction

theorem eq_of_mem_signs (h : c'.toLower = c.toLower) (hc : c ∈ signs) : c' = c := by
  have hletters : ∀ c, c.isAlpha → signs.contains c = false := by
    intro c hletter
    refine Bool.eq_false_iff.mpr fun hmem => ?_
    have hword := (isWordChar_of_mem_signs (List.contains_iff_mem.mp hmem)).1
    rw [isWordChar_of_isIdentifierPart (isIdentifierPart_of_isAlpha hletter)] at hword
    contradiction
  exact eq_of_not_letter hletters h (List.contains_iff_mem.mpr hc)

theorem isKnown_congr (h : c'.toLower = c.toLower) : isKnown c' = isKnown c := by
  have hletters : ∀ c, c.isAlpha → isKnown c = true := by
    intro c hletter
    simp [isKnown, isIdentifierPart_of_isAlpha hletter]
  exact congr_toLower hletters h

end

/-- The text in which letters may have changed their case. -/
def IsRecased (text text' : List Char) : Prop := text'.map Char.toLower = text.map Char.toLower

section

variable {text text' : List Char}

theorem IsRecased.cons {c c' : Char} (hcase : c'.toLower = c.toLower) (h : IsRecased text text') :
    IsRecased (c :: text) (c' :: text') :=
  List.map_eq_cons_iff.mpr ⟨c', text', rfl, hcase, h⟩

theorem IsRecased.eq (h : IsRecased text text') (hnumeral : ∀ c ∈ text, isNumeralChar c) : text' = text := by
  induction text generalizing text' with
  | nil => exact List.map_eq_nil_iff.mp h
  | cons c tail ih =>
    obtain ⟨c', tail', rfl, hc, htail⟩ := List.map_eq_cons_iff.mp h
    obtain ⟨hnumeral, htails⟩ := List.forall_mem_cons.mp hnumeral
    rw [eq_of_not_letter (fun _ => isNumeralChar_of_isAlpha) hc hnumeral, ih htail htails]

theorem IsRecased.isIdentifierPart (h : IsRecased text text') (hparts : ∀ c ∈ text, isIdentifierPart c) :
    ∀ c ∈ text', isIdentifierPart c := by
  intro c' hc'
  obtain ⟨c, hc, hcase⟩ := List.mem_map.mp (h ▸ List.mem_map_of_mem hc')
  rw [congr_toLower (fun _ => isIdentifierPart_of_isAlpha) hcase.symm]
  exact hparts c hc

/-- The text of a token is one of the same kind still, and only that of a name may be another. -/
theorem IsLexeme.recased {kind : Kind} (h : IsLexeme kind text) (hcase : IsRecased text text') :
    IsLexeme kind text' ∧ (kind ≠ .identifier → text' = text) := by
  cases h with
  | number h =>
    obtain rfl := hcase.eq h.chars
    exact ⟨.number h, fun _ => rfl⟩
  | identifier hstart htail =>
    obtain ⟨c', tail', rfl, hc, htails⟩ := List.map_eq_cons_iff.mp hcase
    have hstart' := congr_toLower (fun _ => isIdentifierStart_of_isAlpha) hc
    refine ⟨.identifier (hstart'.trans hstart) (IsRecased.isIdentifierPart htails htail), fun hne => ?_⟩
    exact absurd rfl hne
  | sign hkind =>
    obtain ⟨c', tail', rfl, hc, htails⟩ := List.map_eq_cons_iff.mp hcase
    obtain rfl := List.map_eq_nil_iff.mp htails
    obtain rfl := eq_of_mem_signs hc (mem_signs_of_signKind? hkind)
    exact ⟨.sign hkind, fun _ => rfl⟩

/-- The lower-case form of a name is that of its letters. -/
theorem lower_of_isIdentifierPart (h : ∀ c ∈ text, isIdentifierPart c) :
    Text.lower (String.ofList text) = String.ofList (text.map Char.toLower) := by
  have hchar : ∀ c ∈ text, Text.lowerChar c = [c.toLower] := by
    intro c hc
    have hb := isIdentifierPart_bounds (h c hc)
    have hascii : Text.IsPrintableAscii c := ⟨by omega, by omega⟩
    exact hascii.of_codes (fun c => Text.lowerChar c = [c.toLower]) (by decide +kernel)
  have hsigma : Text.capitalSigma ∉ text := by
    intro hmem
    have hpart := h _ hmem
    contradiction
  rw [Text.lower, String.toList_ofList, Text.lowerBehind_of_not_mem [] text hsigma, List.flatMap_congr hchar,
    ← List.map_eq_flatMap]

end

end SciCalc.Token
