import SciCalc.Proofs.SpellingPasses

/-!
# Spelling a text again

The plain spelling of a text has no character left that the passes replace, but for the glyphs that the compatibility form
brings in. It is its own plain spelling unless there are such glyphs, or a root is followed by a mark that the last letter
of its name takes.
-/

namespace SciCalc

namespace Text

open Compatibility

variable {c : Char} {s front behind : List Char}

/-- The text is its own compatibility form. -/
def IsForm (s : List Char) : Prop := compatibilityForm s = s

theorem isForm_iff : IsForm s ↔ IsFolded (s.map Char.toNat) := compatibilityForm_eq_iff

theorem isForm_compatibilityForm (s : List Char) : IsForm (compatibilityForm s) := by
  rw [isForm_iff, map_toNat_compatibilityForm]
  exact isFolded_folded _

theorem isForm_nil : IsForm [] := by
  have hcompose : compose [] = [] := by rw [compose]
  exact congrArg (List.map Char.ofNat) hcompose

theorem IsForm.left (h : IsForm (front ++ behind)) : IsForm front := by
  rw [isForm_iff, List.map_append] at h
  exact isForm_iff.mpr h.left

theorem IsForm.right (h : IsForm (front ++ behind)) : IsForm behind := by
  rw [isForm_iff, List.map_append] at h
  exact isForm_iff.mpr h.right

theorem IsForm.tail (h : IsForm (c :: s)) : IsForm s := @IsForm.right [c] s h

theorem isForm_append (hc : IsFirm c.toNat) : IsForm (front ++ c :: behind) ↔ IsForm front ∧ IsForm (c :: behind) := by
  rw [isForm_iff, isForm_iff, isForm_iff, List.map_append, List.map_cons]
  exact isFolded_append hc

/-- A starter of its own that composes with nothing. -/
structure IsSealed (c : Char) : Prop where
  firm : IsFirm c.toNat
  barren : ∀ second, composePair? c.toNat second = none

/-- A sealed character separates the texts around it. -/
theorem isForm_sealed (hc : IsSealed c) : IsForm (front ++ c :: behind) ↔ IsForm front ∧ IsForm behind := by
  rw [isForm_append hc.firm]
  apply and_congr_right'
  rw [isForm_iff, isForm_iff, List.map_cons]
  exact isFolded_cons hc.firm hc.barren

theorem isForm_cons (hc : IsSealed c) : IsForm (c :: s) ↔ IsForm s := by
  have hcut := @isForm_sealed c [] s hc
  rwa [and_iff_right isForm_nil] at hcut

theorem isForm_sealed_front (h : ∀ c ∈ front, IsSealed c) : IsForm (front ++ s) ↔ IsForm s := by
  induction front with
  | nil => rfl
  | cons c front ih =>
    obtain ⟨hc, hfront⟩ := List.forall_mem_cons.mp h
    rw [List.cons_append, isForm_cons hc, ih hfront]

theorem isForm_sealed_behind (h : ∀ c ∈ behind, IsSealed c) : IsForm (s ++ behind) ↔ IsForm s := by
  cases behind with
  | nil => rw [List.append_nil]
  | cons c behind =>
    obtain ⟨hc, hbehind⟩ := List.forall_mem_cons.mp h
    have hform := (@isForm_sealed_front [] behind hbehind).mpr isForm_nil
    rw [List.append_nil] at hform
    rw [isForm_sealed hc, and_iff_left hform]

theorem isFirm_of_isInert {code : Nat} (h : IsInert code) : IsFirm code := by
  have hwhole : decompose code = [code] := by
    rcases h with h | rfl
    · exact if_pos (by omega)
    · decide +kernel
  exact ⟨hwhole, combiningClass_inert h, fun first => composePair?_inert first h⟩

theorem isForm_inert (h : ∀ c ∈ s, IsInert c.toNat) : IsForm s := by
  apply compatibilityForm_of_codes h
  rw [List.flatMap_congr fun c hc => (isFirm_of_isInert (h c hc)).whole, List.map_eq_flatMap]

theorem isSealed_sign (h : c ∈ ['*', '^', '(', ')', '√']) : IsSealed c := by
  have hcodes : ∀ code ∈ ['*', '^', '(', ')', '√'].map Char.toNat,
      firsts.testBit code = false ∧ (code < 0x7F ∨ code = 0x221A) := by
    decide +kernel
  obtain ⟨hfirst, hinert⟩ := hcodes c.toNat (List.mem_map_of_mem h)
  exact ⟨isFirm_of_isInert hinert, composePair?_of_not_first hfirst⟩

theorem isSealed_blank (hfirm : IsFirm c.toNat) (hblank : isBlank c = true) : IsSealed c := by
  have hdisjoint : codesOf blankRanges &&& firsts = 0 := by decide +kernel
  have hcode : (codesOf blankRanges).testBit c.toNat = true := testBit_codesOf.mpr hblank
  exact ⟨hfirm, composePair?_of_not_first (not_testBit_of_disjoint hdisjoint hcode)⟩

end Text

namespace Spelling

open Text Text.Compatibility

variable {s front rest : List Char} {c : Char}

/-! ### The last passes and the compatibility form -/

theorem isForm_append_carets (front s : List Char) : IsForm (front ++ carets s) ↔ IsForm (front ++ s) := by
  have hstar : IsSealed '*' := isSealed_sign (by decide)
  have hcaret : IsSealed '^' := isSealed_sign (by decide)
  fun_induction carets s generalizing front with
  | case1 rest ih =>
    rw [isForm_sealed hcaret, isForm_sealed hstar, isForm_cons hstar]
    exact and_congr_right fun _ => ih []
  | case2 c rest hc ih =>
    have hrest := ih (front ++ [c])
    rwa [List.append_assoc, List.append_assoc] at hrest
  | case3 => rfl

theorem isForm_carets (s : List Char) : IsForm (carets s) ↔ IsForm s := isForm_append_carets [] s

theorem isForm_strip (h : ∀ c ∈ s, isBlank c → IsSealed c) : IsForm (strip isBlank s) ↔ IsForm s := by
  obtain ⟨front, behind, hs, hfront, hbehind⟩ := exists_strip s
  have hsealed : ∀ c, c ∈ front ∨ c ∈ behind → IsSealed c := by
    intro c hc
    refine h c ?_ (hc.elim (hfront c) (hbehind c))
    rw [hs]
    exact hc.elim (List.mem_append_left _) fun hc => List.mem_append_right _ (List.mem_append_right _ hc)
  calc
    IsForm (strip isBlank s) ↔ IsForm (strip isBlank s ++ behind) :=
      (isForm_sealed_behind fun c hc => hsealed c (Or.inr hc)).symm
    _ ↔ IsForm (front ++ (strip isBlank s ++ behind)) := (isForm_sealed_front fun c hc => hsealed c (Or.inl hc)).symm
    _ ↔ IsForm s := by rw [← hs]

/-- No root has a mark behind it that the last letter of its name takes. -/
def RootsApart (s : List Char) : Prop := ∀ rest, '√' :: rest <:+ s → IsForm ('t' :: rest)

theorem rootsApart_cons : RootsApart (c :: s) ↔ (c = '√' → IsForm ('t' :: s)) ∧ RootsApart s := by
  constructor
  · intro h
    refine ⟨?_, fun rest hrest => h rest (hrest.trans (List.suffix_cons c s))⟩
    rintro rfl
    exact h s List.suffix_rfl
  · intro ⟨hc, hs⟩ rest hrest
    rcases List.suffix_cons_iff.mp hrest with heq | hrest
    · obtain ⟨hradical, rfl⟩ := List.cons_eq_cons.mp heq
      exact hc hradical.symm
    · exact hs rest hrest

theorem rootsApart_append (h : '√' ∉ front) : RootsApart (front ++ s) ↔ RootsApart s := by
  induction front with
  | nil => rfl
  | cons c front ih =>
    rw [List.mem_cons, not_or] at h
    rw [List.cons_append, rootsApart_cons, ih h.2]
    exact and_iff_right fun hc => absurd hc.symm h.1

theorem exists_roots_radical (rest : List Char) : ∃ tail, roots ('√' :: rest) = 's' :: tail :=
  List.head?_eq_some_iff.mp (head_roots_radical rest)

/-- What stands before a text meets its first character only, if that is no radical sign. -/
theorem isForm_cons_roots (h : IsForm rest) : IsForm (c :: roots rest) ↔ IsForm (c :: rest) ∧ IsForm (roots rest) := by
  by_cases hradical : '√' ∈ rest
  · obtain ⟨front, behind, rfl, hfront⟩ := List.eq_append_cons_of_mem hradical
    obtain ⟨tail, htail⟩ := exists_roots_radical behind
    have hletter : IsFirm 's'.toNat := isFirm_of_isInert (Or.inl (by decide))
    have hsign : IsFirm '√'.toNat := isFirm_of_isInert (Or.inr (by decide))
    rw [roots_append hfront, htail, ← List.cons_append, ← List.cons_append, isForm_append hletter, isForm_append hletter,
      isForm_append hsign]
    have hbehind := h.right
    have hleft := h.left
    tauto
  · rw [roots_eq hradical, and_iff_left h]

/-- What a radical sign takes as its argument begins with a character that no mark belongs to. -/
theorem IsArgument.isForm_cons {gap radicand behind : List Char} (hargument : IsArgument gap radicand behind)
    (h : IsForm (gap ++ (radicand ++ behind))) (hc : IsForm [c]) : IsForm (c :: (gap ++ (radicand ++ behind))) := by
  obtain ⟨first, rest, hrest, hfirst⟩ : ∃ first rest, gap ++ (radicand ++ behind) = first :: rest ∧
      (isBlank first = true ∨ isDecimalDigit first = true ∨ IsInert first.toNat) := by
    cases gap with
    | nil =>
      obtain ⟨first, tail, rfl, hfirst⟩ := hargument.first
      exact ⟨first, tail ++ behind, rfl, Or.inr hfirst⟩
    | cons blank gap => exact ⟨blank, gap ++ (radicand ++ behind), rfl, Or.inl (hargument.blanks blank List.mem_cons_self)⟩
  rw [hrest] at h ⊢
  have hfirm : IsFirm first.toNat := by
    rw [← or_assoc] at hfirst
    rcases hfirst with hfirst | hinert
    · exact isFirm_of_mem (isForm_iff.mp h) hfirst List.mem_cons_self
    · exact isFirm_of_isInert hinert
  exact (@isForm_append first [c] rest hfirm).mpr ⟨hc, h⟩

theorem isForm_roots (h : IsForm s) : IsForm (roots s) ↔ RootsApart s := by
  have hletters : ∀ c ∈ ['s', 'q', 'r', 't'], c.toNat < 0x7F := by simp
  have hname : IsForm ['s', 'q', 'r', 't'] := isForm_inert fun c hc => Or.inl (hletters c hc)
  have hletter : IsFirm 't'.toNat := isFirm_of_isInert (Or.inl (hletters 't' (by decide)))
  induction s using roots_induction with
  | nil =>
    rw [roots]
    exact iff_of_true isForm_nil fun rest hrest => absurd (List.suffix_nil.mp hrest) (List.cons_ne_nil _ _)
  | bare rest hroots ih =>
    have hcut : IsForm (['s', 'q', 'r'] ++ 't' :: roots rest) ↔ _ := isForm_append hletter
    have hfront : IsForm ['s', 'q', 'r'] := IsForm.left (show IsForm (['s', 'q', 'r'] ++ ['t']) from hname)
    rw [hroots, rootsApart_cons]
    have hbehind : IsForm (roots rest) ↔ RootsApart rest := ih h.tail
    rw [and_iff_right hfront, isForm_cons_roots h.tail, hbehind] at hcut
    exact hcut.trans (and_congr_left' ⟨fun h _ => h, fun h => h rfl⟩)
  | call gap radicand behind hargument ih =>
    have hrest := h.tail
    have hparen : IsForm (['s', 'q', 'r', 't'] ++ '(' :: radicand) :=
      (isForm_sealed (isSealed_sign (by decide))).mpr ⟨hname, hrest.right.left⟩
    have hjoined : IsForm ('t' :: (gap ++ (radicand ++ behind))) :=
      hargument.isForm_cons hrest (IsForm.right (show IsForm (['s', 'q', 'r'] ++ ['t']) from hname))
    obtain ⟨hgap, hradicand⟩ := hargument.radical_not_mem
    have hbehind : IsForm (roots behind) ↔ RootsApart behind := ih hrest.right.right
    rw [hargument.roots_eq, isForm_sealed (isSealed_sign (by decide)), hbehind, rootsApart_cons,
      rootsApart_append hgap, rootsApart_append hradicand]
    exact and_congr_left' (iff_of_true hparen fun _ => hjoined)
  | keep c rest hc ih =>
    have hbehind : IsForm (roots rest) ↔ RootsApart rest := ih h.tail
    rw [roots_cons hc, isForm_cons_roots h.tail, rootsApart_cons, hbehind]
    exact and_congr_left' (iff_of_true h fun hradical => absurd hradical hc)

/-! ### Plain spellings -/

/-- The text as the compatibility form leaves it. Radical signs and doubled stars are still in it. -/
def form (s : List Char) : List Char := compatibilityForm ((powers false (s.flatMap visible)).flatMap glyph)

theorem plain_eq (s : List Char) : plain s = finished (form s) := rfl

theorem not_isGlyph_signs (s : List Char) : ∀ c ∈ s.flatMap glyph, ¬IsGlyph c := by
  intro c hc
  rcases mem_flatMap_glyph hc with ⟨-, hglyph⟩ | hascii
  · exact hglyph
  · exact not_isGlyph_printable hascii

theorem isInvisible_form (s : List Char) : ∀ c ∈ form s, isInvisible c = false := by
  apply isInvisible_compatibilityForm
  intro c hc
  rcases mem_flatMap_glyph hc with ⟨hc, -⟩ | hascii
  · rcases mem_powers hc with hc | hascii
    · exact isInvisible_visible s c hc
    · exact isInvisible_printable hascii
  · exact isInvisible_printable hascii

theorem level_of_mem_plain (h : c ∈ plain s) : IsLevel c ∧ isInvisible c = false := by
  rcases mem_finished h with hc | hascii
  · exact ⟨isLevel_compatibilityForm hc, isInvisible_form s c hc⟩
  · exact ⟨isLevel_printable hascii, isInvisible_printable hascii⟩

theorem hidden_not_mem_plain (h : c ∈ plain s) : c.toNat ∉ hiddenGlyphs := by
  intro hhidden
  rcases mem_finished h with hc | hascii
  · exact hidden_not_mem_compatibilityForm hhidden hc
  · exact (hiddenGlyphs_cases hhidden).2 hascii

theorem radical_not_mem_plain (s : List Char) : '√' ∉ plain s := by
  intro hmem
  rcases mem_carets ((strip_within _).subset hmem) with hmem | hcaret
  · exact radical_not_mem_roots (form s) hmem
  · exact absurd hcaret (by decide)

theorem not_infix_plain (s : List Char) : ¬['*', '*'] <:+: plain s := fun hstars =>
  not_infix_carets (roots (form s)) (hstars.trans (strip_within _))

theorem exists_glyph_plain_iff (s : List Char) :
    (∃ c ∈ plain s, IsGlyph c) ↔ ∃ c ∈ powers false (s.flatMap visible), c.toNat ∈ hiddenGlyphs := by
  calc
    (∃ c ∈ plain s, IsGlyph c) ↔ ∃ c ∈ form s, IsGlyph c := by
      refine exists_congr fun c => and_congr_left fun hglyph => ⟨fun hc => ?_, fun hc => ?_⟩
      · exact (mem_finished hc).resolve_right fun hascii => not_isGlyph_printable hascii hglyph
      · obtain ⟨hradical, hstar, hblank⟩ := isGlyph_cases hglyph
        exact mem_finished_of_mem hc hradical hstar hblank
    _ ↔ ∃ c ∈ (powers false (s.flatMap visible)).flatMap glyph, c.toNat ∈ hiddenGlyphs :=
      exists_glyph_iff (not_isGlyph_signs _)
    _ ↔ ∃ c ∈ powers false (s.flatMap visible), c.toNat ∈ hiddenGlyphs := by
      refine exists_congr fun c => and_congr_left fun hhidden => ⟨fun hc => ?_, fun hc => ?_⟩
      · exact ((mem_flatMap_glyph hc).resolve_right (hiddenGlyphs_cases hhidden).2).1
      · refine List.mem_flatMap.mpr ⟨c, hc, ?_⟩
        rw [glyph_eq (hiddenGlyphs_cases hhidden).1]
        exact List.mem_cons_self

theorem powers_visible_plain (s : List Char) : powers false ((plain s).flatMap visible) = plain s := by
  rw [flatMap_visible_eq fun c hc => (level_of_mem_plain hc).2, powers_eq fun c hc => (level_of_mem_plain hc).1]

theorem form_plain (h : ∀ c ∈ plain s, ¬IsGlyph c) : form (plain s) = compatibilityForm (plain s) := by
  rw [form, powers_visible_plain, flatMap_glyph_eq h]

theorem isForm_plain_iff (s : List Char) : IsForm (plain s) ↔ RootsApart (form s) := by
  have hform : IsForm (form s) := isForm_compatibilityForm _
  have hsealed : ∀ c ∈ carets (roots (form s)), isBlank c → IsSealed c := by
    intro c hc hblank
    refine isSealed_blank ?_ hblank
    rcases mem_carets hc with hc | rfl
    · rcases mem_roots hc with hc | hascii
      · exact isFirm_of_mem (isForm_iff.mp hform) (Or.inl hblank) (List.mem_map.mpr ⟨c, hc, rfl⟩)
      · exact isFirm_of_isInert (Or.inl hascii.2)
    · exact isFirm_of_isInert (Or.inl (by decide))
  rw [plain_eq, finished, isForm_strip hsealed, isForm_carets, isForm_roots hform]

theorem plain_plain_iff (s : List Char) :
    plain (plain s) = plain s ↔ (∀ c ∈ plain s, ¬IsGlyph c) ∧ RootsApart (form s) := by
  constructor
  · intro h
    have hglyph : ∀ c ∈ plain s, ¬IsGlyph c := by
      intro c hc hglyph
      rw [← h] at hc
      obtain ⟨other, hother, hhidden⟩ := (exists_glyph_plain_iff (plain s)).mp ⟨c, hc, hglyph⟩
      rw [powers_visible_plain] at hother
      exact hidden_not_mem_plain hother hhidden
    refine ⟨hglyph, (isForm_plain_iff s).mp ?_⟩
    have hradical := radical_not_mem_compatibilityForm (radical_not_mem_plain s)
    have hcarets := (isForm_carets _).mpr (isForm_compatibilityForm (plain s))
    obtain ⟨front, behind, hs⟩ := strip_within (carets (compatibilityForm (plain s)))
    rw [plain_eq (plain s), form_plain hglyph, finished, roots_eq hradical] at h
    rw [h] at hs
    rw [← hs] at hcarets
    exact hcarets.left.right
  · intro ⟨hglyph, happart⟩
    have hform : compatibilityForm (plain s) = plain s := (isForm_plain_iff s).mpr happart
    rw [plain_eq (plain s), form_plain hglyph, hform, finished, roots_eq (radical_not_mem_plain s),
      carets_eq (not_infix_plain s)]
    exact strip_strip _

/-- Nothing is left in the text that the passes replace, but for glyphs. -/
structure IsSpelledOut (s : List Char) : Prop where
  radical : '√' ∉ s
  level : ∀ c ∈ s, IsLevel c
  visible : ∀ c ∈ s, isInvisible c = false
  stars : ¬['*', '*'] <:+: s
  ends : strip isBlank s = s

theorem isSpelledOut_plain (s : List Char) : IsSpelledOut (plain s) where
  radical := radical_not_mem_plain s
  level _ hc := (level_of_mem_plain hc).1
  visible _ hc := (level_of_mem_plain hc).2
  stars := not_infix_plain s
  ends := strip_strip _

/-- The plain spelling of a text is spelled out. It has a glyph just if the compatibility form finds a hidden one, and it is
its own plain spelling unless there is a hidden glyph or a root that the form would join to what stands behind it. -/
theorem ofScalar_text_again (s : String) :
    IsSpelledOut (ofScalar (.text s)).toList ∧
    ((∃ c ∈ (ofScalar (.text s)).toList, IsGlyph c) ↔
      ∃ c ∈ powers false (s.toList.flatMap visible), c.toNat ∈ hiddenGlyphs) ∧
    (ofScalar (.text (ofScalar (.text s))) = ofScalar (.text s) ↔
      (∀ c ∈ powers false (s.toList.flatMap visible), c.toNat ∉ hiddenGlyphs) ∧ RootsApart (form s.toList)) := by
  have hspelling : (ofScalar (.text s)).toList = plain s.toList := String.toList_ofList
  have hagain : ofScalar (.text (ofScalar (.text s))) = String.ofList (plain (plain s.toList)) := by
    rw [← hspelling]
    rfl
  have hsame : ofScalar (.text (ofScalar (.text s))) = ofScalar (.text s) ↔ plain (plain s.toList) = plain s.toList := by
    rw [hagain]
    exact String.ofList_inj
  have hglyphs := exists_glyph_plain_iff s.toList
  have hnone := not_congr hglyphs
  simp only [not_exists, not_and] at hnone
  rw [hspelling, hsame, plain_plain_iff, hnone]
  exact ⟨isSpelledOut_plain _, hglyphs, Iff.rfl⟩

/-- A slanted letter folds into a glyph, which is replaced the next time only. -/
theorem ofScalar_of_slanted_pi : ofScalar (.text "𝜋") = "π" ∧ IsGlyph 'π' ∧
    ofScalar (.text (ofScalar (.text "𝜋"))) = "pi" := by
  have hglyph : IsGlyph 'π' := by decide
  have hslanted : plain ['𝜋'] = ['π'] := by
    have hunfolded : unfolded [0x1D70B] = [⟨0x3C0, 0⟩] := by decide +kernel
    have hcomposed : Composed (unfolded [0x1D70B]) [0x3C0] := by
      rw [hunfolded]
      exact .cons (.done 0x3C0 none) .nil
    have hform : form ['𝜋'] = ['π'] := by
      have hsigns : (powers false (['𝜋'].flatMap visible)).flatMap glyph = ['𝜋'] := by decide +kernel
      rw [form, hsigns, compatibilityForm_eq]
      exact congrArg (List.map Char.ofNat) hcomposed.compose_eq
    rw [plain_eq, hform, finished, roots_eq (by decide)]
    decide
  have hletter : plain ['π'] = ['p', 'i'] := by
    have hform : form ['π'] = ['p', 'i'] := by
      have hsigns : (powers false (['π'].flatMap visible)).flatMap glyph = ['p', 'i'] := by decide +kernel
      have hletters : ∀ c ∈ ['p', 'i'], c.toNat < 0x7F := by simp
      rw [form, hsigns]
      exact isForm_inert fun c hc => Or.inl (hletters c hc)
    rw [plain_eq, hform, finished, roots_eq (by decide)]
    decide
  have hspelling : ofScalar (.text "𝜋") = "π" := congrArg String.ofList hslanted
  rw [hspelling]
  exact ⟨rfl, hglyph, congrArg String.ofList hletter⟩

end Spelling

end SciCalc
