import SciCalc.Proofs.FoldedTexts
import SciCalc.Proofs.PlainTexts
import SciCalc.Spelling

/-!
# Characters of a folded text

Which of the characters that the other passes replace may stand in a compatibility form: no superscript does, an invisible
character or a radical sign does where it stood before, and a glyph also does where a character folds into it.
-/

namespace SciCalc

namespace Text

open Compatibility

variable {s : List Char} {c : Char}

/-- The codes in the ranges. -/
def codesOf (ranges : List (Nat × Nat)) : Nat := union (fun range => span range.1 range.2) ranges

theorem testBit_codesOf {ranges : List (Nat × Nat)} {code : Nat} :
    (codesOf ranges).testBit code = true ↔ inRanges ranges code = true := by
  rw [codesOf, testBit_union, inRanges, List.any_eq_true]
  simp only [testBit_span, Bool.and_eq_true, decide_eq_true_eq]

theorem toNat_mem_folded : c ∈ compatibilityForm s ↔ c.toNat ∈ folded (s.map Char.toNat) := by
  rw [← map_toNat_compatibilityForm, List.mem_map_of_injective fun _ _ => Char.toNat_inj.mp]

/-- A character of the form is one of the text, or one that decompositions and compositions have. -/
theorem mem_compatibilityForm (h : c ∈ compatibilityForm s) : c ∈ s ∨ (targets ||| composites).testBit c.toNat = true := by
  rw [Nat.testBit_or, Bool.or_eq_true]
  rcases mem_folded (toNat_mem_folded.mp h) with hmem | hcomposite
  · obtain ⟨code, hcode, htarget⟩ := List.mem_flatMap.mp hmem
    rcases mem_decompose htarget with hself | hmember
    · rw [hself, List.mem_singleton] at htarget
      rw [← htarget, List.mem_map_of_injective fun _ _ => Char.toNat_inj.mp] at hcode
      exact Or.inl hcode
    · exact Or.inr (Or.inl hmember)
  · exact Or.inr (Or.inr hcomposite)

/-- What decomposes is in a form only where it is composed. -/
theorem not_mem_compatibilityForm (hdecompose : decompose c.toNat ≠ [c.toNat])
    (hcomposite : composites.testBit c.toNat = false) : c ∉ compatibilityForm s := by
  intro hmem
  rcases (isFolded_folded _).decompose_eq (toNat_mem_folded.mp hmem) with hwhole | hwhole
  · exact hdecompose hwhole
  · exact Bool.eq_false_iff.mp hcomposite hwhole

theorem isInvisible_compatibilityForm (h : ∀ c ∈ s, isInvisible c = false) :
    ∀ c ∈ compatibilityForm s, isInvisible c = false := by
  intro c hc
  have hdisjoint : (targets ||| composites) &&& codesOf invisibleRanges = 0 := by decide +kernel
  rcases mem_compatibilityForm hc with hc | hc
  · exact h c hc
  · rw [isInvisible, Bool.eq_false_iff, ne_eq, ← testBit_codesOf, not_testBit_of_disjoint hdisjoint hc]
    exact Bool.false_ne_true

theorem radical_not_mem_compatibilityForm (h : '√' ∉ s) : '√' ∉ compatibilityForm s := by
  have hdisjoint : (targets ||| composites) &&& single '√'.toNat = 0 := by decide +kernel
  intro hmem
  rcases mem_compatibilityForm hmem with hmem | hmem
  · exact h hmem
  · have hradical := not_testBit_of_disjoint hdisjoint hmem
    rw [Bool.eq_false_iff, ne_eq, testBit_single] at hradical
    exact hradical rfl

/-- Blanks and decimal digits of every script. -/
def blanksAndDigits : Nat := codesOf blankRanges ||| union (fun first => span first (first + 9)) zeroDigits

theorem testBit_blanksAndDigits (h : isBlank c = true ∨ isDecimalDigit c = true) :
    blanksAndDigits.testBit c.toNat = true := by
  rw [blanksAndDigits, Nat.testBit_or, Bool.or_eq_true, testBit_codesOf, testBit_union]
  refine h.imp_right fun hdigit => ?_
  rw [isDecimalDigit, digitValue?, Option.isSome_map] at hdigit
  obtain ⟨first, hfind⟩ := Option.isSome_iff_exists.mp hdigit
  have hrange := List.find?_some hfind
  simp only [Bool.and_eq_true, decide_eq_true_eq] at hrange
  exact ⟨first, List.mem_of_find?_eq_some hfind, testBit_span.mpr ⟨hrange.1, Nat.le_of_lt_succ hrange.2⟩⟩

/-- A text that is folded may be cut in front of a blank or a digit. -/
theorem isFirm_of_mem {codes : List Nat} (h : IsFolded codes) (hc : isBlank c = true ∨ isDecimalDigit c = true)
    (hmem : c.toNat ∈ codes) : IsFirm c.toNat := by
  have hdisjoint : blanksAndDigits &&& (seconds ||| markCodes ||| composites) = 0 := by decide +kernel
  have hnot := not_testBit_of_disjoint hdisjoint (testBit_blanksAndDigits hc)
  rw [Nat.testBit_or, Nat.testBit_or, Bool.or_eq_false_iff, Bool.or_eq_false_iff] at hnot
  obtain ⟨⟨hsecond, hmark⟩, hcomposite⟩ := hnot
  have hwhole := (h.decompose_eq hmem).resolve_right (Bool.eq_false_iff.mp hcomposite)
  exact ⟨hwhole, combiningClass_of_not_mark hmark, composePair?_of_not_second hsecond⟩

end Text

namespace Spelling

open Text Text.Compatibility

variable {s : List Char} {c : Char}

/-- Neither a superscript digit nor a superscript sign. -/
def IsLevel (c : Char) : Prop := superscriptDigits.lookup c = none ∧ superscriptSigns.lookup c = none

theorem isLevel_iff : IsLevel c ↔ c.toNat ∉ (superscriptDigits ++ superscriptSigns).map fun row => row.1.toNat := by
  rw [IsLevel, List.lookup_eq_none_iff, List.lookup_eq_none_iff]
  simp only [List.map_append, List.mem_append, List.mem_map, not_or, not_exists, not_and, bne_iff_ne, Char.toNat_inj]
  exact and_congr (forall₂_congr fun _ _ => ne_comm) (forall₂_congr fun _ _ => ne_comm)

theorem isLevel_compatibilityForm (h : c ∈ compatibilityForm s) : IsLevel c := by
  have hcodes : ∀ code ∈ (superscriptDigits ++ superscriptSigns).map fun row => row.1.toNat,
      decompose code ≠ [code] ∧ composites.testBit code = false := by
    decide +kernel
  rw [isLevel_iff]
  intro hcode
  obtain ⟨hdecompose, hcomposite⟩ := hcodes c.toNat hcode
  exact not_mem_compatibilityForm hdecompose hcomposite h

/-! ### Glyphs -/

/-- Characters that are no glyphs and have a glyph in their decomposition. -/
def hiddenGlyphs : List Nat := [
  0x013F, 0x0140, 0x0387, 0x03D6, 0x207B, 0x208B, 0x213C, 0x213F, 0x33A7, 0x33A8, 0x33AE, 0x33AF, 0x33C6, 0x33DE, 0x33DF,
  0xFE31, 0xFE32, 0xFE58, 0x1D6B7, 0x1D6D1, 0x1D6E1, 0x1D6F1, 0x1D70B, 0x1D71B, 0x1D72B, 0x1D745, 0x1D755, 0x1D765,
  0x1D77F, 0x1D78F, 0x1D79F, 0x1D7B9, 0x1D7C9]

def IsGlyph (c : Char) : Prop := (glyphs.lookup c).isSome

instance (c : Char) : Decidable (IsGlyph c) := inferInstanceAs (Decidable ((glyphs.lookup c).isSome = true))

def glyphCodes : Nat := union (fun row => single row.1.toNat) glyphs

theorem testBit_glyphCodes : glyphCodes.testBit c.toNat = true ↔ IsGlyph c := by
  rw [IsGlyph, ← Option.ne_none_iff_isSome, ne_eq, List.lookup_eq_none_iff, glyphCodes, testBit_union]
  simp only [testBit_single, Char.toNat_inj, bne_iff_ne, not_forall, not_not, exists_prop]

/-- A glyph is in the decompositions of glyphs and hidden glyphs only. -/
theorem glyph_of_mem_decompose {code target : Nat} (htarget : glyphCodes.testBit target = true)
    (h : target ∈ decompose code) : glyphCodes.testBit code = true ∨ code ∈ hiddenGlyphs := by
  have hdecomposes := decomposes code
  generalize decompose code = codes at h hdecomposes
  cases hdecomposes with
  | itself code => exact Or.inl (List.mem_singleton.mp h ▸ htarget)
  | syllable hlead hvowel htail =>
    have hdisjoint : jamo &&& glyphCodes = 0 := by decide +kernel
    have hnot := not_testBit_of_disjoint hdisjoint (testBit_jamo hlead hvowel htail h)
    exact Bool.noConfusion (htarget.symm.trans hnot)
  | @run code row hrow hfirst hlast =>
    have hruns : ∀ row ∈ runs, ∀ glyph ∈ glyphs, row.2.2 ≤ glyph.1.toNat →
        glyph.1.toNat - row.2.2 ≤ row.2.1 - row.1 → row.1 + (glyph.1.toNat - row.2.2) ∈ hiddenGlyphs := by
      decide +kernel
    obtain ⟨glyph, hglyph, hsingle⟩ := testBit_union.mp htarget
    rw [List.mem_singleton] at h
    rw [testBit_single] at hsingle
    have hsource := hruns row hrow glyph hglyph (by omega) (by omega)
    have hcode : row.1 + (glyph.1.toNat - row.2.2) = code := by omega
    exact Or.inr (hcode ▸ hsource)
  | @entry page hpage entry hentry =>
    have hentries : ∀ page ∈ pages, ∀ entry ∈ page.2.2, union single entry.2 &&& glyphCodes = 0 ∨
        (glyphCodes.testBit entry.1 || hiddenGlyphs.contains entry.1) = true := by
      decide +kernel
    have htargets : (union single entry.2).testBit target = true :=
      testBit_union.mpr ⟨target, h, testBit_single.mpr rfl⟩
    rcases hentries page hpage entry hentry with hdisjoint | hsource
    · have hnot := not_testBit_of_disjoint hdisjoint htargets
      exact Bool.noConfusion (htarget.symm.trans hnot)
    · simpa using hsource

theorem hiddenGlyphs_cases (h : c.toNat ∈ hiddenGlyphs) : ¬IsGlyph c ∧ ¬IsPrintableAscii c := by
  have hcodes : ∀ code ∈ hiddenGlyphs, glyphCodes.testBit code = false ∧ ¬(0x20 ≤ code ∧ code < 0x7F) := by
    decide +kernel
  obtain ⟨hglyph, hascii⟩ := hcodes c.toNat h
  rw [← testBit_glyphCodes]
  exact ⟨Bool.eq_false_iff.mp hglyph, hascii⟩

theorem hidden_not_mem_compatibilityForm (h : c.toNat ∈ hiddenGlyphs) : c ∉ compatibilityForm s := by
  have hcodes : ∀ code ∈ hiddenGlyphs, decompose code ≠ [code] ∧ composites.testBit code = false := by decide +kernel
  obtain ⟨hdecompose, hcomposite⟩ := hcodes c.toNat h
  exact not_mem_compatibilityForm hdecompose hcomposite

theorem isGlyph_cases (h : IsGlyph c) : c ≠ '√' ∧ c ≠ '*' ∧ isBlank c = false := by
  have hrows : ∀ row ∈ glyphs, row.1 ≠ '√' ∧ row.1 ≠ '*' ∧ isBlank row.1 = false := by decide
  obtain ⟨text, hlookup⟩ := Option.isSome_iff_exists.mp h
  obtain ⟨before, behind, hglyphs, -⟩ := List.lookup_eq_some_iff.mp hlookup
  exact hrows (c, text) (by rw [hglyphs]; simp)

/-- The form has a glyph if the text, which has none, has a hidden one. -/
theorem exists_glyph_iff (h : ∀ c ∈ s, ¬IsGlyph c) :
    (∃ c ∈ compatibilityForm s, IsGlyph c) ↔ ∃ c ∈ s, c.toNat ∈ hiddenGlyphs := by
  have hdisjoint : glyphCodes &&& (firsts ||| seconds ||| composites) = 0 := by decide +kernel
  constructor
  · intro ⟨c, hc, hglyph⟩
    rw [← testBit_glyphCodes] at hglyph
    have hnot := not_testBit_of_disjoint hdisjoint hglyph
    rw [Nat.testBit_or, Bool.or_eq_false_iff] at hnot
    have hmem := (mem_folded (toNat_mem_folded.mp hc)).resolve_right (Bool.eq_false_iff.mp hnot.2)
    obtain ⟨code, hcode, htarget⟩ := List.mem_flatMap.mp hmem
    obtain ⟨source, hsource, rfl⟩ := List.mem_map.mp hcode
    refine ⟨source, hsource, (glyph_of_mem_decompose hglyph htarget).resolve_left ?_⟩
    rw [testBit_glyphCodes]
    exact h source hsource
  · intro ⟨c, hc, hhidden⟩
    have hfolds : ∀ code ∈ hiddenGlyphs, ∃ glyph ∈ glyphs, glyph.1.toNat ∈ decompose code := by decide +kernel
    obtain ⟨glyph, hglyph, htarget⟩ := hfolds c.toNat hhidden
    have hset : glyphCodes.testBit glyph.1.toNat = true := testBit_union.mpr ⟨glyph, hglyph, testBit_single.mpr rfl⟩
    have hnot := not_testBit_of_disjoint hdisjoint hset
    rw [Nat.testBit_or, Nat.testBit_or, Bool.or_eq_false_iff, Bool.or_eq_false_iff] at hnot
    have hmem : glyph.1.toNat ∈ (s.map Char.toNat).flatMap decompose :=
      List.mem_flatMap.mpr ⟨c.toNat, List.mem_map.mpr ⟨c, hc, rfl⟩, htarget⟩
    have hfolded := mem_folded_of_alone hmem (composePair?_of_not_second hnot.1.2) (composePair?_of_not_first hnot.1.1)
    exact ⟨glyph.1, toNat_mem_folded.mpr hfolded, testBit_glyphCodes.mp hset⟩

end Spelling

end SciCalc
