import SciCalc.Decimal.Layout
import SciCalc.Decimal.Reader
import SciCalc.Token.Lexer

/-!
# Numerals

A numeral is a row of digits, or two rows around a point of which the left one may be empty. These are the
numbers that are split off a text, and each of them is read as the value nearest to the decimal it writes.
-/

namespace SciCalc

/-- A row of digits, or a point with digits behind it and perhaps before it. -/
inductive Token.IsNumeral : List Char → Prop
  | whole (digits : List Char) (hd : ∀ c ∈ digits, c.isDigit) (hne : digits ≠ []) : IsNumeral digits
  | pointed (whole fraction : List Char) (hw : ∀ c ∈ whole, c.isDigit) (hf : ∀ c ∈ fraction, c.isDigit)
    (hne : fraction ≠ []) : IsNumeral (whole ++ '.' :: fraction)

theorem Token.isNumeral_digit {c : Char} (h : c.isDigit = true) : IsNumeral [c] :=
  .whole [c] (List.forall_mem_singleton.mpr h) (List.cons_ne_nil _ _)

/-- The decimal that a numeral writes. -/
def Decimal.Digits.ofNumeral (s : List Char) : Decimal.Digits :=
  let fraction := (s.dropWhile Char.isDigit).drop 1
  ⟨Decimal.digitsValue (s.takeWhile Char.isDigit ++ fraction), -fraction.length⟩

section

variable {α : Type} {p : α → Bool} {front rest : List α}

theorem takeWhile_run (hf : ∀ c ∈ front, p c) (hr : ∀ c ∈ rest.head?, p c = false) :
    (front ++ rest).takeWhile p = front := by
  rw [List.takeWhile_append_of_pos hf]
  cases rest with
  | nil => simp
  | cons c rest => simp [hr c rfl]

theorem dropWhile_run (hf : ∀ c ∈ front, p c) (hr : ∀ c ∈ rest.head?, p c = false) :
    (front ++ rest).dropWhile p = rest := by
  rw [List.dropWhile_append_of_pos hf]
  cases rest with
  | nil => rfl
  | cons c rest => simp [hr c rfl]

/-- What is stripped from the front, where nothing else is to be stripped. -/
theorem strip_run {gap s : List Char} {p : Char → Bool} (hgap : ∀ c ∈ gap, p c) (hfirst : ∀ c ∈ s.head?, p c = false)
    (hlast : ∀ c ∈ s.getLast?, p c = false) : Text.strip p (gap ++ s) = s := by
  have hback : s.reverse.dropWhile p = s.reverse := by
    apply @dropWhile_run _ p [] s.reverse (by simp)
    rwa [List.head?_reverse]
  rw [Text.strip, dropWhile_run hgap hfirst, hback, List.reverse_reverse]

theorem strip_eq_self {s : List Char} {p : Char → Bool} (h : ∀ c ∈ s, p c = false) :
    Text.strip p s = s :=
  @strip_run [] s p (by simp) (fun c hc => h c (List.mem_of_mem_head? hc)) fun c hc => h c (List.mem_of_getLast? hc)

end

/-- From the full stop to the letter z there are no blanks. -/
theorem Text.isBlank_of_bounds {c : Char} (hlow : 0x2E ≤ c.toNat) (hhigh : c.toNat ≤ 0x7A) :
    Text.isBlank c = false := by
  simp only [Text.isBlank, Text.inRanges, Text.blankRanges, List.any_cons, List.any_nil,
    Bool.or_eq_false_iff, Bool.and_eq_false_iff, decide_eq_false_iff_not, and_true]
  omega

/-- The characters of numerals. -/
def Token.isNumeralChar (c : Char) : Bool := c.isDigit || c == '.'

namespace Token

theorem isNumeralChar_bounds {c : Char} (h : isNumeralChar c) : 0x2E ≤ c.toNat ∧ c.toNat ≤ 0x39 := by
  rcases Bool.or_eq_true_iff.mp h with hd | hp
  · simp only [Char.isDigit, Bool.and_eq_true, decide_eq_true_eq] at hd
    have h1 : 48 ≤ c.toNat := hd.1
    have h2 : c.toNat ≤ 57 := hd.2
    omega
  · rw [beq_iff_eq] at hp
    subst hp
    decide

theorem isNumeralChar_of_isDigit {c : Char} (h : c.isDigit = true) : isNumeralChar c = true := by
  rw [isNumeralChar, h, Bool.true_or]

theorem IsNumeral.chars {s : List Char} (h : IsNumeral s) : ∀ c ∈ s, isNumeralChar c := by
  cases h with
  | whole digits hd hne => exact fun c hc => isNumeralChar_of_isDigit (hd c hc)
  | pointed whole fraction hw hf hne =>
    intro c hc
    rcases List.mem_append.mp hc with hc | hc
    · exact isNumeralChar_of_isDigit (hw c hc)
    · rcases List.mem_cons.mp hc with rfl | hc
      · rfl
      · exact isNumeralChar_of_isDigit (hf c hc)

theorem IsNumeral.ne_nil {s : List Char} (h : IsNumeral s) : s ≠ [] := by
  cases h with
  | whole digits hd hne => exact hne
  | pointed => simp

end Token

namespace Decimal

open Token

/-- The characters of numbers with a sign and an exponent. -/
def isNumberChar (c : Char) : Bool := isNumeralChar c || c == 'e' || c == '-' || c == '+'

theorem isNumberChar_of_isNumeralChar {c : Char} (h : isNumeralChar c = true) : isNumberChar c = true := by
  rw [isNumberChar, h]
  rfl

/-- These characters are neither blanks nor digits of other scripts, and no low line is among them. -/
theorem isNumberChar_cases {c : Char} (h : isNumberChar c = true) :
    Text.isNumberBlank c = false ∧ plainDigit c = c ∧ c ≠ '_' := by
  simp only [isNumberChar, Bool.or_eq_true, beq_iff_eq] at h
  rcases h with ((h | rfl) | rfl) | rfl
  · have hb := isNumeralChar_bounds h
    refine ⟨?_, if_pos (by omega), ?_⟩
    · rw [Text.isNumberBlank, Text.isBlank_of_bounds hb.1 (by omega), Bool.false_and]
    · rintro rfl
      contradiction
  · decide
  · decide
  · decide

theorem dropSeparators_eq_self (afterDigit : Bool) {s : List Char} (h : '_' ∉ s) :
    dropSeparators afterDigit s = some s := by
  induction s generalizing afterDigit with
  | nil => rfl
  | cons c rest ih =>
    have hc : c ≠ '_' := fun e => h (e ▸ List.mem_cons_self)
    have hrest : '_' ∉ rest := fun m => h (List.mem_cons_of_mem c m)
    rw [dropSeparators, ih _ hrest, Option.map_some]
    exact hc

theorem bareNumber?_eq_self {s : List Char} (h : ∀ c ∈ s, isNumberChar c) : bareNumber? s = some s := by
  have hblank : Text.strip Text.isNumberBlank s = s :=
    strip_eq_self fun c hc => (isNumberChar_cases (h c hc)).1
  have hmap : s.map plainDigit = s :=
    (List.map_congr_left fun c hc => (isNumberChar_cases (h c hc)).2.1).trans (List.map_id s)
  have hsep : '_' ∉ s := fun m => (isNumberChar_cases (h '_' m)).2.2 rfl
  rw [bareNumber?, hblank, hmap, dropSeparators_eq_self _ hsep]

section

variable {first : Char} {rest : List Char}

theorem splitSign_of_isNumeralChar (h : isNumeralChar first) (rest : List Char) :
    splitSign (first :: rest) = (false, first :: rest) := by
  have hminus : first ≠ '-' := fun e => absurd (e ▸ h) (by decide)
  have hplus : first ≠ '+' := fun e => absurd (e ▸ h) (by decide)
  simp [splitSign, hminus, hplus]

theorem splitSign_signed (h : isNumeralChar first) (negative : Bool) :
    splitSign (Layout.signed negative (first :: rest)) = (negative, first :: rest) := by
  cases negative with
  | true => rfl
  | false => exact splitSign_of_isNumeralChar h rest

/-- No word begins with a character of numerals. -/
theorem lower_ne_word (h : isNumeralChar first) (letter : Char) (hletter : 0x3A ≤ letter.toNat) (word : List Char) :
    (first :: rest).map Char.toLower ≠ letter :: word := by
  have hc := isNumeralChar_bounds h
  intro e
  have hlower : first.toLower = letter := (List.cons.inj e).1
  have hsame : first.toLower = first := dif_neg fun hup => by
    have hA : 65 ≤ first.toNat := hup.1
    omega
  rw [← hlower, hsame] at hletter
  omega

/-- Behind its sign, a number is read as the decimal that it writes. -/
theorem readFloat?_signed {text : String} {negative : Bool} {d : Digits}
    (htext : text.toList = Layout.signed negative (first :: rest)) (hfirst : isNumeralChar first)
    (hrest : ∀ c ∈ rest, isNumberChar c) (h : unsigned? (first :: rest) = some d) :
    readFloat? text = some (d.toFloat negative) := by
  have hinf : (first :: rest).map Char.toLower ≠ "inf".toList :=
    lower_ne_word hfirst 'i' (by decide) ['n', 'f']
  have hinfinity : (first :: rest).map Char.toLower ≠ "infinity".toList :=
    lower_ne_word hfirst 'i' (by decide) ['n', 'f', 'i', 'n', 'i', 't', 'y']
  have hnan : (first :: rest).map Char.toLower ≠ "nan".toList := lower_ne_word hfirst 'n' (by decide) ['a', 'n']
  have hbare : bareNumber? text.toList = some (Layout.signed negative (first :: rest)) := by
    have hbehind : ∀ c ∈ first :: rest, isNumberChar c :=
      List.forall_mem_cons.mpr ⟨isNumberChar_of_isNumeralChar hfirst, hrest⟩
    rw [htext]
    apply bareNumber?_eq_self
    cases negative with
    | true => exact List.forall_mem_cons.mpr ⟨rfl, hbehind⟩
    | false => exact hbehind
  simp only [readFloat?, hbare, Option.bind_eq_bind, Option.bind_some, splitSign_signed hfirst, decide_eq_false hinf,
    decide_eq_false hinfinity, Bool.or_self, Bool.false_eq_true, if_false, if_neg hnan, h, Option.map_some]

end

theorem unsigned?_whole {digits : List Char} (hd : ∀ c ∈ digits, c.isDigit) (hne : digits ≠ []) :
    unsigned? digits = some (Digits.ofNumeral digits) := by
  have htake := @takeWhile_run _ Char.isDigit digits [] hd (by simp)
  have hdrop := @dropWhile_run _ Char.isDigit digits [] hd (by simp)
  rw [List.append_nil] at htake hdrop
  simp [unsigned?, Digits.ofNumeral, htake, hdrop, hne, exponentPart?]

theorem unsigned?_pointed {whole fraction : List Char} (hw : ∀ c ∈ whole, c.isDigit)
    (hf : ∀ c ∈ fraction, c.isDigit) (hne : fraction ≠ []) :
    unsigned? (whole ++ '.' :: fraction) = some (Digits.ofNumeral (whole ++ '.' :: fraction)) := by
  have hpoint : ∀ c ∈ ('.' :: fraction).head?, c.isDigit = false := by simp
  have htake := takeWhile_run hw hpoint
  have hdrop := dropWhile_run hw hpoint
  have htakef := @takeWhile_run _ Char.isDigit fraction [] hf (by simp)
  have hdropf := @dropWhile_run _ Char.isDigit fraction [] hf (by simp)
  rw [List.append_nil] at htakef hdropf
  simp [unsigned?, Digits.ofNumeral, htake, hdrop, htakef, hdropf, hne, exponentPart?]

theorem unsigned?_numeral {s : List Char} (h : IsNumeral s) : unsigned? s = some (Digits.ofNumeral s) := by
  cases h with
  | whole digits hd hne => exact unsigned?_whole hd hne
  | pointed whole fraction hw hf hne => exact unsigned?_pointed hw hf hne

theorem readFloat?_signed_numeral {text : String} {negative : Bool} {s : List Char} (h : IsNumeral s)
    (htext : text.toList = Layout.signed negative s) :
    readFloat? text = some (Digits.toFloat negative (.ofNumeral s)) := by
  obtain ⟨first, rest, rfl⟩ := List.exists_cons_of_ne_nil h.ne_nil
  have hchars := h.chars
  apply readFloat?_signed htext (hchars first List.mem_cons_self) _ (unsigned?_numeral h)
  intro c hc
  exact isNumberChar_of_isNumeralChar (hchars c (List.mem_cons_of_mem first hc))

/-- A numeral is read as the value nearest to the decimal it writes. -/
theorem readFloat?_numeral {text : String} (h : IsNumeral text.toList) :
    readFloat? text = some (Digits.toFloat false (.ofNumeral text.toList)) :=
  readFloat?_signed_numeral h rfl

end Decimal

end SciCalc
