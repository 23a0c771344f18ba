import SciCalc.Proofs.OrderlyTexts
import SciCalc.Proofs.PlainTexts
import SciCalc.Spelling

/-!
# Radical signs and doubled stars

A text may write a power with two stars for the caret, and a root of a number or a name with a radical sign for the call.
An orderly text that is recast in this way is restored by the passes over radical signs and stars.
-/

namespace SciCalc.Spelling

open Text

/-- A number or a name, which in an infix text is that of a constant. -/
inductive IsRadicand : List Char → Prop
  | number {text : List Char} (h : Token.IsNumeral text) : IsRadicand text
  | name {first : Char} {tail : List Char} (hfirst : Token.isIdentifierStart first)
    (htail : ∀ c ∈ tail, Token.isIdentifierPart c) : IsRadicand (first :: tail)

/-- Any powers of the text are written with two stars, and any roots of a radicand with a radical sign. -/
inductive Recast : List Char → List Char → Prop
  | nil : Recast [] []
  | keep (c : Char) {text recast : List Char} (h : Recast text recast) : Recast (c :: text) (c :: recast)
  | power {text recast : List Char} (h : Recast text recast) : Recast ('^' :: text) ('*' :: '*' :: recast)
  | root {radicand : List Char} (hradicand : IsRadicand radicand) (blanks : Nat) {text recast : List Char}
    (h : Recast text recast) : Recast (['s', 'q', 'r', 't', '('] ++ radicand ++ ')' :: text)
      ('√' :: (List.replicate blanks ' ' ++ (radicand ++ recast)))

/-- A character of a recast text. -/
def IsPlainOrRadical (c : Char) : Prop := IsPrintableAscii c ∨ c = '√'

section

variable {c : Char}

theorem isDecimalDigit_ascii (h : IsPrintableAscii c) : isDecimalDigit c = c.isDigit :=
  h.of_codes (fun c => isDecimalDigit c = c.isDigit) (by decide +kernel)

theorem inRanges_of_below {ranges : List (Nat × Nat)} {code bound : Nat} (hcode : code < bound)
    (hranges : ranges.all (fun range => bound ≤ range.1) = true) : inRanges ranges code = false := by
  apply List.any_eq_false.mpr
  intro range hmem
  have hbound := of_decide_eq_true (List.all_eq_true.mp hranges range hmem)
  simp only [Bool.and_eq_true, decide_eq_true_eq]
  omega

/-- The word characters among the printable ASCII characters are those of names. -/
theorem isWordChar_ascii (h : IsPrintableAscii c) : isWordChar c = Token.isIdentifierPart c := by
  have hlow : inRanges wordLow c.toNat = inRanges (wordLow.take 4) c.toNat := by
    have hrest := @inRanges_of_below (wordLow.drop 4) _ _ h.2 (by decide +kernel)
    have hsplit := List.take_append_drop 4 wordLow
    calc
      inRanges wordLow c.toNat = inRanges (wordLow.take 4 ++ wordLow.drop 4) c.toNat := by rw [hsplit]
      _ = (inRanges (wordLow.take 4) c.toNat || inRanges (wordLow.drop 4) c.toNat) := List.any_append
      _ = inRanges (wordLow.take 4) c.toNat := by rw [hrest, Bool.or_false]
  have hmiddle : inRanges wordMiddle c.toNat = false := inRanges_of_below h.2 (by decide +kernel)
  have hhigh : inRanges wordHigh c.toNat = false := inRanges_of_below h.2 (by decide +kernel)
  have hnames : inRanges (wordLow.take 4) c.toNat = Token.isIdentifierPart c :=
    h.of_codes (fun c => inRanges (wordLow.take 4) c.toNat = Token.isIdentifierPart c) (by decide +kernel)
  rw [isWordChar, hlow, hmiddle, hhigh, Bool.or_false, Bool.or_false, hnames]

theorem isPrintableAscii_of_isNumeralChar (h : Token.isNumeralChar c) : IsPrintableAscii c := by
  have hbounds := Token.isNumeralChar_bounds h
  exact ⟨by omega, by omega⟩

theorem isPrintableAscii_of_isIdentifierPart (h : Token.isIdentifierPart c) : IsPrintableAscii c := by
  have hbounds := Token.isIdentifierPart_bounds h
  exact ⟨by omega, by omega⟩

theorem isDecimalDigit_of_isDigit (h : c.isDigit) : isDecimalDigit c := by
  have hnumeral : Token.isNumeralChar c := Token.isNumeralChar_of_isDigit h
  rwa [isDecimalDigit_ascii (isPrintableAscii_of_isNumeralChar hnumeral)]

end

/-! ### Radicands -/

/-- What stands behind a radicand does not belong to it. -/
structure Leaves (rest : List Char) : Prop where
  digit : ∀ c ∈ rest.head?, isDecimalDigit c = false
  word : ∀ c ∈ rest.head?, isWordChar c = false
  point : rest.head? ≠ some '.'
  paren : (rest.dropWhile isBlank).head? ≠ some '('

theorem leaves_of_goesOn {rest : List Char} (hplain : ∀ c ∈ rest, IsPlainOrRadical c) (h : Token.GoesOn rest) :
    Leaves rest := by
  have hparen : (rest.dropWhile isBlank).head? ≠ some '(' := by
    intro hhead
    exact absurd (h '(' hhead) (by decide)
  cases rest with
  | nil => exact ⟨by simp, by simp, by simp, hparen⟩
  | cons c tail =>
    have hc : isDecimalDigit c = false ∧ isWordChar c = false ∧ c ≠ '.' := by
      cases hblank : isBlank c with
      | false =>
        have hsign := (Token.goesOn_cons hblank).mp h
        have hsigns : Token.signsBehind.all (fun c => !isDecimalDigit c && !isWordChar c && c != '.') = true := by
          decide +kernel
        simpa [and_assoc] using List.all_eq_true.mp hsigns c hsign
      | true =>
        rcases hplain c List.mem_cons_self with hascii | rfl
        · exact hascii.of_codes (fun c => isBlank c = true → isDecimalDigit c = false ∧ isWordChar c = false ∧ c ≠ '.')
            (by decide +kernel) hblank
        · contradiction
    exact ⟨by simp [hc.1], by simp [hc.2.1], by simp [hc.2.2], hparen⟩

theorem fractionLength_of_ne {rest : List Char} (h : rest.head? ≠ some '.') : fractionLength rest = 0 := by
  unfold fractionLength
  split
  · rename_i tail
    exact absurd rfl h
  · rfl

theorem fractionLength_point {fraction rest : List Char} (hfraction : ∀ c ∈ fraction, c.isDigit) (hne : fraction ≠ [])
    (hrest : Leaves rest) : fractionLength ('.' :: (fraction ++ rest)) = fraction.length + 1 := by
  have htake := takeWhile_run (fun c hc => isDecimalDigit_of_isDigit (hfraction c hc)) hrest.digit
  obtain ⟨count, hcount⟩ : ∃ count, fraction.length = count + 1 :=
    Nat.exists_eq_add_one.mpr (List.length_pos_iff.mpr hne)
  simp only [fractionLength, htake, hcount]

theorem radicandLength_number {text rest : List Char} (h : Token.IsNumeral text) (hrest : Leaves rest) :
    radicandLength (text ++ rest) = text.length := by
  cases h with
  | whole digits hd hne =>
    have htake := takeWhile_run (fun c hc => isDecimalDigit_of_isDigit (hd c hc)) hrest.digit
    obtain ⟨count, hcount⟩ : ∃ count, text.length = count + 1 :=
      Nat.exists_eq_add_one.mpr (List.length_pos_iff.mpr hne)
    have hbehind : (text ++ rest).drop (count + 1) = rest := by
      rw [← hcount, List.drop_left]
    simp only [radicandLength, htake, hcount, hbehind, fractionLength_of_ne hrest.point, Nat.add_zero]
  | pointed whole fraction hw hf hne =>
    have hpoint : ∀ c ∈ ('.' :: (fraction ++ rest)).head?, isDecimalDigit c = false := by
      simp only [List.head?_cons, Option.mem_some_iff, forall_eq']
      decide
    have htake := takeWhile_run (fun c hc => isDecimalDigit_of_isDigit (hw c hc)) hpoint
    have hfraction := fractionLength_point hf hne hrest
    rw [List.append_assoc, List.cons_append, List.length_append, List.length_cons, ← hfraction]
    cases hcount : whole.length with
    | zero =>
      obtain rfl := List.length_eq_zero_iff.mp hcount
      simp only [List.nil_append] at htake ⊢
      simp [radicandLength, htake, startsName]
    | succ count =>
      have hbehind : (whole ++ '.' :: (fraction ++ rest)).drop (count + 1) = '.' :: (fraction ++ rest) := by
        rw [← hcount, List.drop_left]
      simp only [radicandLength, htake, hcount, hbehind]

theorem radicandLength_name {first : Char} {tail rest : List Char} (hfirst : Token.isIdentifierStart first)
    (htail : ∀ c ∈ tail, Token.isIdentifierPart c) (hrest : Leaves rest) :
    radicandLength (first :: tail ++ rest) = (first :: tail).length := by
  have hparts : ∀ c ∈ first :: tail, Token.isIdentifierPart c :=
    List.forall_mem_cons.mpr ⟨Token.isIdentifierPart_of_isIdentifierStart hfirst, htail⟩
  have hword : ∀ c ∈ first :: tail, isWordChar c := by
    intro c hc
    rw [isWordChar_ascii (isPrintableAscii_of_isIdentifierPart (hparts c hc))]
    exact hparts c hc
  have hdigit : isDecimalDigit first = false := by
    rw [isDecimalDigit_ascii (isPrintableAscii_of_isIdentifierPart (hparts first List.mem_cons_self))]
    exact (Bool.or_eq_false_iff.mp (Token.isNumeralChar_of_isIdentifierStart hfirst)).1
  have htake := takeWhile_run hword hrest.word
  have hdrop := dropWhile_run hword hrest.word
  have hstart : startsName first = true := hfirst
  simp only [radicandLength, htake, hdrop]
  simp [hdigit, hstart, hrest.paren]

theorem radicandLength_append {radicand rest : List Char} (h : IsRadicand radicand) (hrest : Leaves rest) :
    radicandLength (radicand ++ rest) = radicand.length := by
  cases h with
  | number h => exact radicandLength_number h hrest
  | name hfirst htail => exact radicandLength_name hfirst htail hrest

theorem IsRadicand.exists_cons {radicand : List Char} (h : IsRadicand radicand) :
    ∃ c tail, radicand = c :: tail ∧ isBlank c = false := by
  cases h with
  | number h =>
    match radicand, h.ne_nil with
    | c :: tail, _ =>
      have hc : Token.isWordChar c = true := by
        simp [Token.isWordChar, h.chars c List.mem_cons_self]
      exact ⟨c, tail, rfl, Token.isBlank_of_isWordChar hc⟩
  | @name first tail hfirst htail =>
    have hc : Token.isWordChar first = true := by
      simp [Token.isWordChar, Token.isIdentifierPart_of_isIdentifierStart hfirst]
    exact ⟨first, tail, rfl, Token.isBlank_of_isWordChar hc⟩

/-- A radical sign before a radicand is a call. -/
theorem roots_radical {radicand rest : List Char} (h : IsRadicand radicand) (hrest : Leaves rest) (blanks : Nat) :
    roots ('√' :: (List.replicate blanks ' ' ++ (radicand ++ rest))) =
      ['s', 'q', 'r', 't', '('] ++ radicand ++ ')' :: roots rest := by
  obtain ⟨c, tail, rfl, hc⟩ := h.exists_cons
  have hblanks : ∀ c ∈ List.replicate blanks ' ', isBlank c := by
    intro c hmem
    rw [List.eq_of_mem_replicate hmem]
    decide
  have hbehind : (List.replicate blanks ' ' ++ (c :: tail ++ rest)).dropWhile isBlank = c :: tail ++ rest := by
    apply dropWhile_run hblanks
    simp [hc]
  have hlength : radicandLength (c :: tail ++ rest) = tail.length + 1 := radicandLength_append h hrest
  have htake : (c :: tail ++ rest).take (c :: tail).length = c :: tail := List.take_left
  have hdrop : (c :: tail ++ rest).drop (c :: tail).length = rest := List.drop_left
  rw [List.length_cons] at htake hdrop
  rw [roots, if_pos rfl]
  simp only [hbehind, hlength, htake, hdrop]

theorem head_roots_radical (rest : List Char) : (roots ('√' :: rest)).head? = some 's' := by
  rw [roots, if_pos rfl]
  cases hlength : radicandLength (rest.dropWhile isBlank) <;> simp only [hlength] <;> rfl

theorem roots_cons {c : Char} (hc : c ≠ '√') (rest : List Char) : roots (c :: rest) = c :: roots rest := by
  rw [roots, if_neg hc]

/-! ### Stars -/

theorem carets_cons {c : Char} {rest : List Char} (h : c = '*' → rest.head? ≠ some '*') :
    carets (c :: rest) = c :: carets rest := by
  rw [carets]
  intro rest' hc hrest
  exact h hc (by rw [hrest, List.head?_cons])

theorem carets_append {front : List Char} (h : '*' ∉ front) (rest : List Char) :
    carets (front ++ rest) = front ++ carets rest := by
  induction front with
  | nil => rfl
  | cons c tail ih =>
    have hc : c ≠ '*' := fun heq => h (heq ▸ List.mem_cons_self)
    have htail : '*' ∉ tail := fun hmem => h (List.mem_cons_of_mem c hmem)
    rw [List.cons_append, carets_cons (fun heq => absurd heq hc), ih htail, List.cons_append]

theorem IsRadicand.star_not_mem {radicand : List Char} (h : IsRadicand radicand) : '*' ∉ radicand := by
  intro hmem
  cases h with
  | number h => exact absurd (h.chars '*' hmem) (by decide)
  | name hfirst htail =>
    rcases List.mem_cons.mp hmem with heq | hmem
    · rw [← heq] at hfirst
      exact absurd hfirst (by decide)
    · exact absurd (htail '*' hmem) (by decide)

/-! ### Recast texts -/

theorem ne_radical {c : Char} (h : IsPrintableAscii c) : c ≠ '√' := h.of_codes (fun c => c ≠ '√') (by decide)

namespace Recast

variable {text recast : List Char}

theorem isPlainOrRadical (h : Recast text recast) (hascii : ∀ c ∈ text, IsPrintableAscii c) :
    ∀ c ∈ recast, IsPlainOrRadical c := by
  induction h with
  | nil => simp
  | keep c h ih =>
    obtain ⟨hc, htext⟩ := List.forall_mem_cons.mp hascii
    exact List.forall_mem_cons.mpr ⟨Or.inl hc, ih htext⟩
  | power h ih =>
    obtain ⟨-, htext⟩ := List.forall_mem_cons.mp hascii
    have hstar : IsPlainOrRadical '*' := Or.inl ⟨by decide, by decide⟩
    exact List.forall_mem_cons.mpr ⟨hstar, List.forall_mem_cons.mpr ⟨hstar, ih htext⟩⟩
  | @root radicand hradicand blanks text recast h ih =>
    intro c hc
    rcases List.mem_cons.mp hc with rfl | hc
    · exact Or.inr rfl
    rcases List.mem_append.mp hc with hc | hc
    · rw [List.eq_of_mem_replicate hc]
      exact Or.inl ⟨by decide, by decide⟩
    rcases List.mem_append.mp hc with hc | hc
    · exact Or.inl (hascii c (by simp [hc]))
    · exact ih (fun c hc => hascii c (by simp [hc])) c hc

/-- A recast text goes on as the text does. -/
theorem goesOn (h : Recast text recast) (hgoes : Token.GoesOn text) : Token.GoesOn recast := by
  induction h with
  | nil => exact hgoes
  | keep c h ih =>
    cases hblank : isBlank c with
    | true => exact (Token.goesOn_blank hblank).mpr (ih ((Token.goesOn_blank hblank).mp hgoes))
    | false => exact (Token.goesOn_cons hblank).mpr ((Token.goesOn_cons hblank).mp hgoes)
  | power h ih => exact (Token.goesOn_cons (by decide)).mpr (by decide)
  | root hradicand blanks h ih =>
    have hletter := (Token.goesOn_cons (by decide)).mp hgoes
    exact absurd hletter (by decide)

theorem head_roots (h : Recast text recast) (hascii : ∀ c ∈ text, IsPrintableAscii c)
    (hstar : Token.LeavesStar text) : (roots recast).head? ≠ some '*' := by
  cases h with
  | nil => simp [roots]
  | keep c h =>
    have hc : c ≠ '√' := ne_radical (hascii c List.mem_cons_self)
    rw [roots_cons hc, List.head?_cons]
    intro heq
    exact (Token.leavesStar_cons.mp hstar).1 (Option.some.inj heq)
  | power h => exact absurd rfl (Token.leavesStar_cons.mp hstar).2
  | root hradicand blanks h =>
    rw [head_roots_radical]
    decide

/-- The passes over radical signs and stars give the text back. -/
theorem carets_roots (h : Recast text recast) (hascii : ∀ c ∈ text, IsPrintableAscii c)
    (horderly : Token.IsOrderly text) : carets (roots recast) = text := by
  induction h with
  | nil => rw [roots, carets]
  | keep c h ih =>
    obtain ⟨hc, htext⟩ := List.forall_mem_cons.mp hascii
    obtain ⟨hstar, -, hbehind⟩ := horderly
    have hhead : c = '*' → (roots _).head? ≠ some '*' := fun heq => h.head_roots htext (hstar heq)
    rw [roots_cons (ne_radical hc), carets_cons hhead, ih htext hbehind]
  | power h ih =>
    obtain ⟨-, htext⟩ := List.forall_mem_cons.mp hascii
    obtain ⟨-, -, hbehind⟩ := horderly
    rw [roots_cons (by decide), roots_cons (by decide), carets, ih htext hbehind]
  | @root radicand hradicand blanks text recast h ih =>
    have htext : ∀ c ∈ text, IsPrintableAscii c := fun c hc => hascii c (by simp [hc])
    obtain ⟨-, hgoes, hbehind⟩ := horderly.behind
    have hleaves := leaves_of_goesOn (h.isPlainOrRadical htext) (h.goesOn (hgoes rfl))
    have hcall : '*' ∉ ['s', 'q', 'r', 't', '('] ++ radicand := by
      simp [hradicand.star_not_mem]
    rw [roots_radical hradicand hleaves, carets_append hcall, carets_cons (by simp), ih htext hbehind]

end Recast

end SciCalc.Spelling
