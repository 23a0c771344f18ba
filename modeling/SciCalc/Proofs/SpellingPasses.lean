import SciCalc.Proofs.FoldedCharacters
import SciCalc.Proofs.RadicalSigns

/-!
# What the passes take away

Every pass removes the characters that it replaces and adds printable ASCII characters only. A text without such characters
is left as it is.
-/

namespace SciCalc.Spelling

open Text Text.Compatibility

variable {s : List Char} {c : Char}

/-! ### Printable ASCII characters -/

theorem isLevel_printable (h : IsPrintableAscii c) : IsLevel c :=
  h.of_codes (fun c => superscriptDigits.lookup c = none ∧ superscriptSigns.lookup c = none) (by decide)

theorem isInvisible_printable (h : IsPrintableAscii c) : isInvisible c = false :=
  h.of_codes (fun c => isInvisible c = false) (by decide)

theorem not_isGlyph_printable (h : IsPrintableAscii c) : ¬IsGlyph c :=
  h.of_codes (fun c => ¬(glyphs.lookup c).isSome) (by decide)

/-! ### Invisible characters -/

theorem isInvisible_visible (s : List Char) : ∀ c ∈ s.flatMap visible, isInvisible c = false := by
  intro c hc
  obtain ⟨source, -, hsource⟩ := List.mem_flatMap.mp hc
  unfold visible at hsource
  split at hsource
  · rw [List.mem_singleton.mp hsource]
    decide
  split at hsource
  · contradiction
  · rename_i hvisible
    rw [List.mem_singleton.mp hsource]
    exact Bool.eq_false_iff.mpr hvisible

theorem flatMap_visible_eq (h : ∀ c ∈ s, isInvisible c = false) : s.flatMap visible = s := by
  have hvisible : ∀ c ∈ s, visible c = [c] := by
    intro c hc
    have hlayout : ∀ c ∈ ['\t', '\n', '\r'], isInvisible c = true := List.all_eq_true.mp rfl
    have hnot : ¬(c = '\t' || c = '\n' || c = '\r') = true := by
      intro hmem
      have hinvisible := hlayout c (by simpa [or_assoc] using hmem)
      exact Bool.noConfusion (hinvisible.symm.trans (h c hc))
    rw [visible, if_neg hnot, h c hc]
    rfl
  rw [List.flatMap_congr hvisible, List.flatMap_singleton']

/-! ### Superscripts and glyphs -/

theorem isPrintableAscii_of_lookup {rows : List (Char × Char)} (hrows : ∀ row ∈ rows, IsPrintableAscii row.2) {sign : Char}
    (h : rows.lookup c = some sign) : IsPrintableAscii sign := by
  obtain ⟨before, behind, rfl, -⟩ := List.lookup_eq_some_iff.mp h
  exact hrows (c, sign) (by simp)

theorem mem_powers {inRun : Bool} (h : c ∈ powers inRun s) : c ∈ s ∨ IsPrintableAscii c := by
  have hdigits : ∀ row ∈ superscriptDigits, 0x20 ≤ row.2.toNat ∧ row.2.toNat < 0x7F := by decide
  have hsigns : ∀ row ∈ superscriptSigns, 0x20 ≤ row.2.toNat ∧ row.2.toNat < 0x7F := by decide
  have hcaret : IsPrintableAscii '^' := ⟨by decide, by decide⟩
  induction s generalizing inRun with
  | nil => contradiction
  | cons first rest ih =>
    have hrest {inRun : Bool} (hc : c ∈ powers inRun rest) : c ∈ first :: rest ∨ IsPrintableAscii c :=
      (ih hc).imp_left (List.mem_cons_of_mem first)
    have hfirst {inRun : Bool} (hc : c ∈ first :: powers inRun rest) : c ∈ first :: rest ∨ IsPrintableAscii c := by
      rcases List.mem_cons.mp hc with rfl | hc
      · exact Or.inl List.mem_cons_self
      · exact hrest hc
    have hsign {sign : Char} (hsign : IsPrintableAscii sign) {inRun : Bool} (hc : c ∈ sign :: powers inRun rest) :
        c ∈ first :: rest ∨ IsPrintableAscii c := by
      rcases List.mem_cons.mp hc with rfl | hc
      · exact Or.inr hsign
      · exact hrest hc
    have hpower {sign : Char} (hprintable : IsPrintableAscii sign) {inRun : Bool}
        (hc : c ∈ '^' :: sign :: powers inRun rest) : c ∈ first :: rest ∨ IsPrintableAscii c := by
      rcases List.mem_cons.mp hc with rfl | hc
      · exact Or.inr hcaret
      · exact hsign hprintable hc
    rw [powers] at h
    split at h
    · rename_i digit hdigit
      have hprintable := isPrintableAscii_of_lookup hdigits hdigit
      split at h
      · exact hsign hprintable h
      · exact hpower hprintable h
    split at h
    · rename_i sign hlookup
      split at h
      · exact hpower (isPrintableAscii_of_lookup hsigns hlookup) h
      · exact hfirst h
    · exact hfirst h

theorem powers_eq (h : ∀ c ∈ s, IsLevel c) : powers false s = s := by
  induction s with
  | nil => rfl
  | cons c rest ih =>
    obtain ⟨⟨hdigit, hsign⟩, hrest⟩ := List.forall_mem_cons.mp h
    rw [powers, hdigit, hsign, ih hrest]

theorem glyph_eq (h : ¬IsGlyph c) : glyph c = [c] := by
  rw [glyph, Option.not_isSome_iff_eq_none.mp h, Option.getD_none]

theorem flatMap_glyph_eq (h : ∀ c ∈ s, ¬IsGlyph c) : s.flatMap glyph = s := by
  rw [List.flatMap_congr fun c hc => glyph_eq (h c hc), List.flatMap_singleton']

theorem mem_flatMap_glyph (h : c ∈ s.flatMap glyph) : c ∈ s ∧ ¬IsGlyph c ∨ IsPrintableAscii c := by
  have hcodes : ∀ row ∈ glyphs, ∀ code ∈ row.2.map Char.toNat, 0x20 ≤ code ∧ code < 0x7F := by decide
  obtain ⟨source, hsource, hc⟩ := List.mem_flatMap.mp h
  by_cases hglyph : IsGlyph source
  · obtain ⟨text, hlookup⟩ := Option.isSome_iff_exists.mp hglyph
    rw [glyph, hlookup, Option.getD_some] at hc
    obtain ⟨before, behind, hrows, -⟩ := List.lookup_eq_some_iff.mp hlookup
    exact Or.inr (hcodes (source, text) (by rw [hrows]; simp) c.toNat (List.mem_map_of_mem hc))
  · rw [glyph_eq hglyph, List.mem_singleton] at hc
    rw [hc]
    exact Or.inl ⟨hsource, hglyph⟩

/-! ### Radical signs -/

/-- A radicand with blanks before it, which a radical sign takes as its argument. -/
structure IsArgument (gap radicand behind : List Char) : Prop where
  blanks : ∀ c ∈ gap, isBlank c
  chars : ∀ c ∈ radicand, isDecimalDigit c ∨ isWordChar c ∨ c = '.'
  first : ∃ c tail, radicand = c :: tail ∧ (isDecimalDigit c ∨ IsInert c.toNat)
  roots_eq : roots ('√' :: (gap ++ (radicand ++ behind))) = ['s', 'q', 'r', 't', '('] ++ radicand ++ ')' :: roots behind

theorem take_length_takeWhile (p : Char → Bool) (s : List Char) : s.take (s.takeWhile p).length = s.takeWhile p :=
  (List.prefix_iff_eq_take.mp (List.takeWhile_prefix p)).symm

theorem take_fractionLength (s : List Char) : fractionLength s = 0 ∨
    ∃ rest, s = '.' :: rest ∧ s.take (fractionLength s) = '.' :: rest.takeWhile isDecimalDigit := by
  by_cases hpoint : s.head? = some '.'
  · obtain ⟨rest, rfl⟩ := List.head?_eq_some_iff.mp hpoint
    have htake := take_length_takeWhile isDecimalDigit rest
    cases hlength : (rest.takeWhile isDecimalDigit).length with
    | zero =>
      left
      simp only [fractionLength, hlength]
    | succ count =>
      rw [hlength] at htake
      right
      refine ⟨rest, rfl, ?_⟩
      simp only [fractionLength, hlength, List.take_succ_cons, htake]
  · exact Or.inl (fractionLength_of_ne hpoint)

theorem fraction_chars (s : List Char) : ∀ c ∈ s.take (fractionLength s), isDecimalDigit c ∨ c = '.' := by
  intro c hc
  rcases take_fractionLength s with hzero | ⟨rest, -, htake⟩
  · rw [hzero, List.take_zero] at hc
    contradiction
  · rw [htake] at hc
    rcases List.mem_cons.mp hc with rfl | hc
    · exact Or.inr rfl
    · exact Or.inl (Token.mem_takeWhile hc)

theorem radicand_chars (s : List Char) :
    ∀ c ∈ s.take (radicandLength s), isDecimalDigit c ∨ isWordChar c ∨ c = '.' := by
  intro c hc
  cases hdigits : (s.takeWhile isDecimalDigit).length with
  | zero =>
    simp only [radicandLength, hdigits] at hc
    split at hc
    · split at hc
      · rw [List.take_zero] at hc
        contradiction
      · rw [take_length_takeWhile] at hc
        exact Or.inr (Or.inl (Token.mem_takeWhile hc))
    · exact (fraction_chars s c hc).imp_right Or.inr
  | succ count =>
    simp only [radicandLength, hdigits] at hc
    rw [List.take_add, ← hdigits, take_length_takeWhile] at hc
    rcases List.mem_append.mp hc with hc | hc
    · exact Or.inl (Token.mem_takeWhile hc)
    · exact (fraction_chars _ c hc).imp_right Or.inr

theorem isInert_of_startsName {c : Char} (h : startsName c = true) : IsInert c.toNat := by
  have hpart := Token.isIdentifierPart_of_isIdentifierStart h
  exact Or.inl (isPrintableAscii_of_isIdentifierPart hpart).2

theorem radicand_first (h : radicandLength s ≠ 0) : ∃ c tail, s = c :: tail ∧ (isDecimalDigit c ∨ IsInert c.toNat) := by
  cases hdigits : (s.takeWhile isDecimalDigit).length with
  | zero =>
    simp only [radicandLength, hdigits] at h
    split at h
    · rename_i hname
      cases s with
      | nil => contradiction
      | cons c tail => exact ⟨c, tail, rfl, Or.inr (isInert_of_startsName hname)⟩
    · obtain ⟨rest, rfl, -⟩ := (take_fractionLength s).resolve_left h
      exact ⟨'.', rest, rfl, Or.inr (Or.inl (by decide))⟩
  | succ count =>
    obtain ⟨c, tail, htake⟩ := List.exists_cons_of_length_eq_add_one hdigits
    have hc : isDecimalDigit c = true := Token.mem_takeWhile (htake ▸ List.mem_cons_self)
    obtain ⟨behind, hs⟩ := List.takeWhile_prefix isDecimalDigit (l := s)
    rw [htake] at hs
    exact ⟨c, tail ++ behind, hs.symm, Or.inl hc⟩

/-- A radical sign before no radicand is the name of the root. -/
theorem roots_bare {rest : List Char} (h : radicandLength (rest.dropWhile isBlank) = 0) :
    roots ('√' :: rest) = 's' :: 'q' :: 'r' :: 't' :: roots rest := by
  rw [roots, if_pos rfl]
  simp only [h]
  rfl

theorem exists_isArgument {rest : List Char} (h : radicandLength (rest.dropWhile isBlank) ≠ 0) :
    ∃ gap radicand behind, rest = gap ++ (radicand ++ behind) ∧ IsArgument gap radicand behind := by
  obtain ⟨c, tail, hbehind, hc⟩ := radicand_first h
  obtain ⟨count, hcount⟩ := Nat.exists_eq_add_one_of_ne_zero h
  have hrest : rest = rest.takeWhile isBlank ++
      ((rest.dropWhile isBlank).take (count + 1) ++ (rest.dropWhile isBlank).drop (count + 1)) := by
    rw [List.take_append_drop, List.takeWhile_append_dropWhile]
  refine ⟨_, _, _, hrest, fun c hc => Token.mem_takeWhile hc, ?_, ⟨c, tail.take count, ?_, hc⟩, ?_⟩
  · rw [← hcount]
    exact radicand_chars _
  · rw [hbehind, List.take_succ_cons]
  · rw [← hrest, roots, if_pos rfl]
    simp only [hcount]

theorem IsArgument.radical_not_mem {gap radicand behind : List Char} (h : IsArgument gap radicand behind) :
    '√' ∉ gap ∧ '√' ∉ radicand := by
  have hblank : isBlank '√' = false := by decide
  have hdigit : isDecimalDigit '√' = false := by decide
  have hword : isWordChar '√' = false := by decide +kernel
  constructor
  · intro hmem
    exact Bool.noConfusion ((h.blanks '√' hmem).symm.trans hblank)
  · intro hmem
    rcases h.chars '√' hmem with hc | hc | hc
    · exact Bool.noConfusion (hc.symm.trans hdigit)
    · exact Bool.noConfusion (hc.symm.trans hword)
    · exact absurd hc (by decide)

/-- A text begins with a radical sign that has an argument, with one that has none or with another character. -/
theorem roots_induction {P : List Char → Prop} (nil : P [])
    (bare : ∀ rest, roots ('√' :: rest) = 's' :: 'q' :: 'r' :: 't' :: roots rest → P rest → P ('√' :: rest))
    (call : ∀ gap radicand behind, IsArgument gap radicand behind → P behind →
      P ('√' :: (gap ++ (radicand ++ behind))))
    (keep : ∀ c rest, c ≠ '√' → P rest → P (c :: rest)) (s : List Char) : P s := by
  induction hlength : s.length using Nat.strong_induction_on generalizing s with
  | h length ih =>
    subst hlength
    cases s with
    | nil => exact nil
    | cons c rest =>
      by_cases hc : c = '√'
      · subst hc
        by_cases hradicand : radicandLength (rest.dropWhile isBlank) = 0
        · exact bare rest (roots_bare hradicand) (ih _ (Nat.lt_succ_self _) rest rfl)
        · obtain ⟨gap, radicand, behind, rfl, hargument⟩ := exists_isArgument hradicand
          refine call gap radicand behind hargument (ih _ ?_ behind rfl)
          simp only [List.length_cons, List.length_append]
          omega
      · exact keep c rest hc (ih _ (Nat.lt_succ_self _) rest rfl)

theorem radical_not_mem_roots (s : List Char) : '√' ∉ roots s := by
  induction s using roots_induction with
  | nil => simp [roots]
  | bare rest hroots ih =>
    rw [hroots]
    simpa using ih
  | call gap radicand behind hargument ih =>
    rw [hargument.roots_eq]
    simpa [hargument.radical_not_mem.2] using ih
  | keep c rest hc ih =>
    rw [roots_cons hc]
    simpa [Ne.symm hc] using ih

theorem mem_roots (h : c ∈ roots s) : c ∈ s ∨ IsPrintableAscii c := by
  have hroot : ∀ c ∈ ['s', 'q', 'r', 't', '(', ')'], 0x20 ≤ c.toNat ∧ c.toNat < 0x7F := by simp
  induction s using roots_induction with
  | nil => simp [roots] at h
  | bare rest hroots ih =>
    have hmem : c ∈ ['s', 'q', 'r', 't'] ++ roots rest := by rwa [hroots] at h
    rcases List.mem_append.mp hmem with hc | hc
    · exact Or.inr (hroot c (List.mem_append_left ['(', ')'] hc))
    · exact (ih hc).imp_left (List.mem_cons_of_mem _)
  | call gap radicand behind hargument ih =>
    rw [hargument.roots_eq] at h
    rcases List.mem_append.mp h with hc | hc
    · rcases List.mem_append.mp hc with hc | hc
      · exact Or.inr (hroot c (List.mem_append_left [')'] hc))
      · exact Or.inl (by simp [hc])
    · rcases List.mem_cons.mp hc with rfl | hc
      · exact Or.inr (hroot ')' (by simp))
      · exact (ih hc).imp_left fun hc => by simp [hc]
  | keep first rest hfirst ih =>
    rw [roots_cons hfirst] at h
    rcases List.mem_cons.mp h with rfl | hc
    · exact Or.inl List.mem_cons_self
    · exact (ih hc).imp_left (List.mem_cons_of_mem _)

/-- What is neither a radical sign nor a blank stays. -/
theorem mem_roots_of_mem (h : c ∈ s) (hradical : c ≠ '√') (hblank : isBlank c = false) : c ∈ roots s := by
  induction s using roots_induction with
  | nil => contradiction
  | bare rest hroots ih =>
    have hrest := ih ((List.mem_cons.mp h).resolve_left hradical)
    rw [hroots]
    simp [hrest]
  | call gap radicand behind hargument ih =>
    have hgap : c ∉ gap := fun hmem => Bool.noConfusion ((hargument.blanks c hmem).symm.trans hblank)
    rw [hargument.roots_eq]
    rcases List.mem_append.mp (((List.mem_append.mp ((List.mem_cons.mp h).resolve_left hradical))).resolve_left hgap) with
      hc | hc
    · simp [hc]
    · simp [ih hc]
  | keep first rest hfirst ih =>
    rw [roots_cons hfirst]
    exact List.mem_cons.mpr ((List.mem_cons.mp h).imp_right ih)

theorem roots_append {front : List Char} (h : '√' ∉ front) (rest : List Char) :
    roots (front ++ rest) = front ++ roots rest := by
  induction front with
  | nil => rfl
  | cons c tail ih =>
    rw [List.mem_cons, not_or] at h
    rw [List.cons_append, roots_cons (Ne.symm h.1), ih h.2, List.cons_append]

theorem roots_eq (h : '√' ∉ s) : roots s = s := by
  have hroots := roots_append h []
  rwa [List.append_nil, roots, List.append_nil] at hroots

/-! ### Doubled stars -/

theorem mem_carets (h : c ∈ carets s) : c ∈ s ∨ c = '^' := by
  fun_induction carets s with
  | case1 rest ih =>
    rcases List.mem_cons.mp h with rfl | hc
    · exact Or.inr rfl
    · exact (ih hc).imp_left fun hc => List.mem_cons_of_mem _ (List.mem_cons_of_mem _ hc)
  | case2 first rest hfirst ih =>
    rcases List.mem_cons.mp h with rfl | hc
    · exact Or.inl List.mem_cons_self
    · exact (ih hc).imp_left (List.mem_cons_of_mem _)
  | case3 => contradiction

theorem mem_carets_of_mem (h : c ∈ s) (hc : c ≠ '*') : c ∈ carets s := by
  fun_induction carets s with
  | case1 rest ih =>
    have hrest := (List.mem_cons.mp ((List.mem_cons.mp h).resolve_left hc)).resolve_left hc
    exact List.mem_cons_of_mem _ (ih hrest)
  | case2 first rest hfirst ih => exact List.mem_cons.mpr ((List.mem_cons.mp h).imp_right ih)
  | case3 => contradiction

theorem head?_carets (h : (carets s).head? = some '*') : s.head? = some '*' := by
  fun_cases carets s with
  | case1 rest => simp
  | case2 first rest hfirst => simpa [carets] using h
  | case3 => simp [carets] at h

theorem not_infix_carets (s : List Char) : ¬['*', '*'] <:+: carets s := by
  fun_induction carets s with
  | case1 rest ih => simpa [List.infix_cons_iff] using ih
  | case2 first rest hfirst ih =>
    rw [List.infix_cons_iff, not_or]
    refine ⟨?_, ih⟩
    intro ⟨tail, htail⟩
    obtain ⟨hstar, hrest⟩ := List.cons_eq_cons.mp htail
    have hhead : (carets rest).head? = some '*' := by rw [← hrest]; rfl
    obtain ⟨behind, hbehind⟩ := List.head?_eq_some_iff.mp (head?_carets hhead)
    exact hfirst behind hstar.symm hbehind
  | case3 => simp

theorem carets_eq (h : ¬['*', '*'] <:+: s) : carets s = s := by
  induction s with
  | nil => rfl
  | cons c rest ih =>
    rw [List.infix_cons_iff, not_or] at h
    rw [carets_cons, ih h.2]
    intro hc hhead
    obtain ⟨tail, rfl⟩ := List.head?_eq_some_iff.mp hhead
    exact h.1 ⟨tail, by rw [hc]; rfl⟩

/-! ### Blanks around a text -/

theorem head?_dropWhile {p : Char → Bool} (h : c ∈ (s.dropWhile p).head?) : p c = false := by
  have hhead := List.head?_dropWhile_not p s
  rwa [h] at hhead

theorem exists_strip (s : List Char) : ∃ front behind, s = front ++ (strip isBlank s ++ behind) ∧
    (∀ c ∈ front, isBlank c) ∧ (∀ c ∈ behind, isBlank c) := by
  have hmiddle : strip isBlank s ++ ((s.dropWhile isBlank).reverse.takeWhile isBlank).reverse = s.dropWhile isBlank := by
    rw [strip, ← List.reverse_append, List.takeWhile_append_dropWhile, List.reverse_reverse]
  refine ⟨s.takeWhile isBlank, ((s.dropWhile isBlank).reverse.takeWhile isBlank).reverse, ?_, ?_, ?_⟩
  · rw [hmiddle, List.takeWhile_append_dropWhile]
  · exact fun c hc => Token.mem_takeWhile hc
  · exact fun c hc => Token.mem_takeWhile (List.mem_reverse.mp hc)

theorem strip_within (s : List Char) : strip isBlank s <:+: s := by
  obtain ⟨front, behind, hs, -⟩ := exists_strip s
  exact ⟨front, behind, by rw [List.append_assoc, ← hs]⟩

theorem strip_strip (s : List Char) : strip isBlank (strip isBlank s) = strip isBlank s := by
  apply @strip_run [] (strip isBlank s) isBlank nofun
  · intro c hc
    have hprefix : strip isBlank s <+: s.dropWhile isBlank := by
      rw [strip, ← List.reverse_suffix, List.reverse_reverse]
      exact List.dropWhile_suffix isBlank
    obtain ⟨tail, htail⟩ := hprefix
    have hhead : c ∈ (s.dropWhile isBlank).head? := by
      rw [← htail, List.head?_append, hc]
      rfl
    exact head?_dropWhile hhead
  · intro c hc
    rw [strip, List.getLast?_reverse] at hc
    exact head?_dropWhile hc

/-! ### The last passes -/

/-- What the passes behind the compatibility form make of it. -/
def finished (s : List Char) : List Char := strip isBlank (carets (roots s))

theorem mem_finished (h : c ∈ finished s) : c ∈ s ∨ IsPrintableAscii c := by
  rcases mem_carets ((strip_within _).subset h) with hc | rfl
  · exact mem_roots hc
  · exact Or.inr ⟨by decide, by decide⟩

theorem mem_finished_of_mem (h : c ∈ s) (hradical : c ≠ '√') (hstar : c ≠ '*') (hblank : isBlank c = false) :
    c ∈ finished s := by
  have hmem := mem_carets_of_mem (mem_roots_of_mem h hradical hblank) hstar
  obtain ⟨front, behind, hs, hfront, hbehind⟩ := exists_strip (carets (roots s))
  rw [hs] at hmem
  rcases List.mem_append.mp hmem with hc | hc
  · exact Bool.noConfusion ((hfront c hc).symm.trans hblank)
  rcases List.mem_append.mp hc with hc | hc
  · exact hc
  · exact Bool.noConfusion ((hbehind c hc).symm.trans hblank)

end SciCalc.Spelling
