import SciCalc.Proofs.FewestDigits
import SciCalc.Proofs.PositionalText

/-!
# Tidy texts

Trimmed digits are written without needless characters, with and without an exponent: no point ends the text, no zero
ends it behind a point, and from the first to the last digit that is not zero there are only these digits. With an
exponent the digits are read as they are.
-/

namespace SciCalc.Decimal

/-- What stands before an exponent. -/
def mantissa (text : List Char) : List Char := text.takeWhile (· != 'e')

theorem mantissa_eq_self {text : List Char} (h : 'e' ∉ text) : mantissa text = text := by
  have hfront : ∀ c ∈ text, (c != 'e') = true := by
    intro c hc
    rw [bne_iff_ne]
    rintro rfl
    exact h hc
  have hrun := @takeWhile_run _ _ text [] hfront (fun _ hc => nomatch hc)
  rwa [List.append_nil] at hrun

/-- The digits of a text from the first to the last that is not zero. -/
def digitSpan (text : List Char) : List Char := Text.strip (· == '0') (text.filter Char.isDigit)

/-- The text has no more than `count` digits from the first to the last that is not zero, and nothing that could be left
out at its end. -/
structure IsTidy (count : Nat) (text : List Char) : Prop where
  few : (digitSpan text).length ≤ count
  endsInNoPoint : text.getLast? ≠ some '.'
  endsInNoZero : '.' ∈ text → text.getLast? ≠ some '0'

theorem IsTidy.mono {count more : Nat} {text : List Char} (h : IsTidy count text) (hle : count ≤ more) :
    IsTidy more text :=
  ⟨Nat.le_trans h.few hle, h.endsInNoPoint, h.endsInNoZero⟩

theorem IsTidy.signed {count : Nat} {text : List Char} (h : IsTidy count text) (hne : text ≠ []) (negative : Bool) :
    IsTidy count (Layout.signed negative text) := by
  cases negative with
  | false => exact h
  | true =>
    have hlast : (Layout.signed true text).getLast? = text.getLast? := List.getLast?_cons_of_ne_nil hne
    refine ⟨h.few, ?_, ?_⟩
    · rw [hlast]
      exact h.endsInNoPoint
    · intro hpoint
      rw [hlast]
      apply h.endsInNoZero
      rcases List.mem_cons.mp hpoint with hminus | hmem
      · contradiction
      · exact hmem

theorem length_strip_le {p : Char → Bool} {front behind : List Char} (text : List Char) (hfront : ∀ c ∈ front, p c)
    (hbehind : ∀ c ∈ behind, p c) : (Text.strip p (front ++ text ++ behind)).length ≤ text.length := by
  rw [Text.strip, List.length_reverse, List.append_assoc, List.dropWhile_append_of_pos hfront, List.dropWhile_append]
  split
  · have hnone : (behind ++ []).dropWhile p = [] := dropWhile_run hbehind (by simp)
    rw [List.append_nil] at hnone
    rw [hnone]
    exact Nat.zero_le _
  · have hreverse : ∀ c ∈ behind.reverse, p c := fun c hc => hbehind c (List.mem_reverse.mp hc)
    rw [List.reverse_append, List.dropWhile_append_of_pos hreverse]
    calc ((text.dropWhile p).reverse.dropWhile p).length
        ≤ (text.dropWhile p).reverse.length := (List.dropWhile_sublist p).length_le
      _ = (text.dropWhile p).length := List.length_reverse
      _ ≤ text.length := (List.dropWhile_sublist p).length_le

theorem zero_of_mem_replicate (count : Nat) : ∀ c ∈ List.replicate count '0', (c == '0') = true := by
  intro c hc
  rw [(List.mem_replicate.mp hc).2]
  rfl

theorem filter_isDigit {digits : List Char} (h : ∀ c ∈ digits, c.isDigit) : digits.filter Char.isDigit = digits :=
  List.filter_eq_self.mpr h

namespace Digits

variable {d : Digits}

theorem IsTrimmed.getLast?_numeral (h : d.IsTrimmed) : (numeral d.digits).getLast? ≠ some '0' := by
  rw [Decimal.getLast?_numeral]
  intro hzero
  exact h (Nat.digitChar_eq_zero.mp (Option.some.inj hzero))

theorem getLast?_ne_point {digits : List Char} (h : ∀ c ∈ digits, c.isDigit) : digits.getLast? ≠ some '.' := by
  intro hpoint
  have hdigit := h '.' (List.mem_of_getLast? hpoint)
  contradiction

end Digits

namespace Layout

open Digits

variable {layout : Layout} {d : Digits}

/-- Positional digits are those of the decimal with zeros before and behind them. -/
theorem exists_filter_positional (hzero : layout.pointZero = false) (d : Digits) : ∃ front behind,
    (layout.positional d).filter Char.isDigit = List.replicate front '0' ++ numeral d.digits ++ List.replicate behind '0' := by
  rw [positional]
  split
  · rw [hzero]
    by_cases hnone : d.digits = 0
    · refine ⟨0, 0, ?_⟩
      rw [if_pos hnone, hnone]
      rfl
    · refine ⟨0, d.exponent.toNat, ?_⟩
      rw [if_neg hnone]
      exact filter_isDigit (isDigit_of_mem_append (isDigit_of_mem_numeral _) (isDigit_of_mem_zeros _))
  · refine ⟨(-d.exponent).toNat + 1 - (numeral d.digits).length, 0, ?_⟩
    have hdigits : ∀ c ∈ padZeros ((-d.exponent).toNat + 1) (numeral d.digits), c.isDigit :=
      isDigit_of_mem_append (isDigit_of_mem_zeros _) (isDigit_of_mem_numeral _)
    have hpoint : Char.isDigit '.' = false := rfl
    simp only [List.filter_append, List.filter_cons, hpoint, Bool.false_eq_true, if_false]
    rw [← List.filter_append, List.take_append_drop, filter_isDigit hdigits, padZeros, List.replicate_zero, List.append_nil]

/-- Trimmed digits are written tidily in their places. -/
theorem isTidy_positional (hzero : layout.pointZero = false) (h : d.IsTrimmed) :
    IsTidy (numeral d.digits).length (layout.positional d) := by
  obtain ⟨front, behind, hfilter⟩ := exists_filter_positional hzero d
  have hfew : (digitSpan (layout.positional d)).length ≤ (numeral d.digits).length := by
    rw [digitSpan, hfilter]
    exact length_strip_le _ (zero_of_mem_replicate front) (zero_of_mem_replicate behind)
  by_cases hwhole : 0 ≤ d.exponent
  · have htext : layout.positional d = wholeDigits d := by
      rw [positional, if_pos hwhole, hzero]
      rfl
    have hdigits := isDigit_of_mem_wholeDigits d
    rw [htext] at hfew ⊢
    refine ⟨hfew, getLast?_ne_point hdigits, ?_⟩
    intro hpoint
    have hdigit := hdigits '.' hpoint
    contradiction
  · have hlast : (layout.positional d).getLast? = (numeral d.digits).getLast? := by
      obtain ⟨places, hplaces⟩ : ∃ places, places = (-d.exponent).toNat := ⟨_, rfl⟩
      have hlength : places < (padZeros (places + 1) (numeral d.digits)).length := by
        rw [padZeros, List.length_append, List.length_replicate]
        omega
      have hbehind : (padZeros (places + 1) (numeral d.digits)).drop
          ((padZeros (places + 1) (numeral d.digits)).length - places) ≠ [] := by
        apply List.ne_nil_of_length_pos
        rw [List.length_drop]
        omega
      simp only [positional, if_neg hwhole, ← hplaces]
      rw [List.getLast?_append, List.getLast?_cons_of_ne_nil hbehind, List.getLast?_drop, if_neg (by omega), padZeros,
        List.getLast?_append, Decimal.getLast?_numeral, Option.some_or, Option.some_or]
    refine ⟨hfew, ?_, ?_⟩
    · rw [hlast]
      exact getLast?_ne_point (isDigit_of_mem_numeral _)
    · intro _
      rw [hlast]
      exact h.getLast?_numeral

/-! ### Exponents -/

/-- Digits with a point behind the first one, if there are others. -/
def pointed : List Char → List Char
  | first :: second :: rest => first :: '.' :: second :: rest
  | digits => digits

theorem scientific_eq (layout : Layout) (d : Digits) :
    layout.scientific d = pointed (numeral d.digits) ++ 'e' :: layout.exponentText d.leading := rfl

theorem exponentPart?_of_splitSign {digits text : List Char} {negative : Bool} (h : ∀ c ∈ digits, c.isDigit)
    (hne : digits ≠ []) (hsign : splitSign text = (negative, digits)) : exponentPart? ('e' :: text) =
      some (if negative then -(digitsValue digits : Int) else digitsValue digits) := by
  have hread : (decide ('e' = 'e') || decide ('e' = 'E')) && !digits.isEmpty && digits.all Char.isDigit := by
    simp [hne, List.all_eq_true.mpr h]
  rw [exponentPart?, hsign]
  exact if_pos hread

theorem exponentPart?_exponentText (layout : Layout) (exponent : Int) :
    exponentPart? ('e' :: layout.exponentText exponent) = some exponent := by
  have hdigits : ∀ c ∈ padZeros layout.exponentWidth (numeral exponent.natAbs), c.isDigit :=
    isDigit_of_mem_append (isDigit_of_mem_zeros _) (isDigit_of_mem_numeral _)
  have hvalue : digitsValue (padZeros layout.exponentWidth (numeral exponent.natAbs)) = exponent.natAbs := by
    rw [digitsValue_padZeros, digitsValue_numeral]
  have hne : padZeros layout.exponentWidth (numeral exponent.natAbs) ≠ [] :=
    List.append_ne_nil_of_right_ne_nil _ Nat.toDigits_ne_nil
  rw [exponentText]
  generalize padZeros layout.exponentWidth (numeral exponent.natAbs) = digits at hdigits hvalue hne ⊢
  by_cases hnegative : exponent < 0
  · rw [if_pos hnegative, exponentPart?_of_splitSign hdigits hne rfl, hvalue, if_pos rfl]
    congr 1
    omega
  · have hsign : splitSign (if layout.exponentPlus then '+' :: digits else digits) = (false, digits) := by
      split
      · rfl
      · obtain ⟨first, rest, rfl⟩ := List.exists_cons_of_ne_nil hne
        exact splitSign_of_isNumeralChar (Token.isNumeralChar_of_isDigit (hdigits first List.mem_cons_self)) rest
    rw [if_neg hnegative, exponentPart?_of_splitSign hdigits hne hsign, hvalue, if_neg Bool.false_ne_true]
    congr 1
    omega

section

variable {digits : List Char}

theorem filter_pointed (h : ∀ c ∈ digits, c.isDigit) : (pointed digits).filter Char.isDigit = digits := by
  match digits with
  | [] => rfl
  | [first] => exact filter_isDigit h
  | first :: second :: rest =>
    have hfirst := h first List.mem_cons_self
    have hrest := filter_isDigit fun c hc => h c (List.mem_cons_of_mem first hc)
    have hpoint : Char.isDigit '.' = false := rfl
    rw [pointed, List.filter_cons, if_pos hfirst, List.filter_cons, hpoint, if_neg Bool.false_ne_true, hrest]

theorem getLast?_pointed (digits : List Char) : (pointed digits).getLast? = digits.getLast? := by
  match digits with
  | [] => rfl
  | [first] => rfl
  | first :: second :: rest => rfl

theorem pointed_ne_nil (h : digits ≠ []) : pointed digits ≠ [] := by
  match digits with
  | [] => contradiction
  | [first] => exact List.cons_ne_nil _ _
  | first :: second :: rest => exact List.cons_ne_nil _ _

theorem isNumeralChar_pointed (h : ∀ c ∈ digits, c.isDigit) : ∀ c ∈ pointed digits, Token.isNumeralChar c := by
  match digits with
  | [] => exact fun _ hc => nomatch hc
  | [first] => exact fun c hc => Token.isNumeralChar_of_isDigit (h c hc)
  | first :: second :: rest =>
    intro c hc
    rw [pointed, List.mem_cons, List.mem_cons] at hc
    rcases hc with rfl | rfl | hc
    · exact Token.isNumeralChar_of_isDigit (h c List.mem_cons_self)
    · rfl
    · exact Token.isNumeralChar_of_isDigit (h c (List.mem_cons_of_mem first hc))

theorem unsigned?_pointed_exponent (h : ∀ c ∈ digits, c.isDigit) (hne : digits ≠ []) {exponent : Int} {text : List Char}
    (hexponent : exponentPart? ('e' :: text) = some exponent) :
    unsigned? (pointed digits ++ 'e' :: text) = some ⟨digitsValue digits, exponent - (digits.length - 1 : Nat)⟩ := by
  have hsign : Char.isDigit 'e' = false := rfl
  match digits with
  | [] => exact absurd rfl hne
  | [first] =>
    have hfirst := h first List.mem_cons_self
    simp [unsigned?, pointed, hfirst, hexponent]
  | first :: second :: rest =>
    have hfirst := h first List.mem_cons_self
    have hrest : ∀ c ∈ second :: rest, c.isDigit := fun c hc => h c (List.mem_cons_of_mem first hc)
    have hstop : ∀ c ∈ ('e' :: text).head?, c.isDigit = false := by simp
    have htake := takeWhile_run hrest hstop
    have hdrop := dropWhile_run hrest hstop
    have hpoint : Char.isDigit '.' = false := rfl
    rw [List.cons_append] at htake hdrop
    simp [unsigned?, pointed, hfirst, hpoint, htake, hdrop, hexponent]

end

/-- Digits with an exponent are read as they are. -/
theorem unsigned?_scientific (layout : Layout) (d : Digits) : unsigned? (layout.scientific d) = some d := by
  have hexponent := exponentPart?_exponentText layout d.leading
  have hlength : 0 < (numeral d.digits).length := Nat.length_toDigits_pos
  rw [scientific_eq, unsigned?_pointed_exponent (isDigit_of_mem_numeral _) Nat.toDigits_ne_nil hexponent,
    digitsValue_numeral]
  have hback : d.leading - ((numeral d.digits).length - 1 : Nat) = d.exponent := by
    rw [leading]
    omega
  rw [hback]

theorem isNumberChar_exponentText (layout : Layout) (exponent : Int) :
    ∀ c ∈ layout.exponentText exponent, isNumberChar c := by
  have hdigits : ∀ c ∈ padZeros layout.exponentWidth (numeral exponent.natAbs), isNumberChar c := by
    intro c hc
    apply isNumberChar_of_isNumeralChar
    apply Token.isNumeralChar_of_isDigit
    exact isDigit_of_mem_append (isDigit_of_mem_zeros _) (isDigit_of_mem_numeral _) c hc
  rw [exponentText]
  split
  · exact List.forall_mem_cons.mpr ⟨rfl, hdigits⟩
  · split
    · exact List.forall_mem_cons.mpr ⟨rfl, hdigits⟩
    · exact hdigits

/-- Behind its sign, a number with an exponent is read as its digits. -/
theorem readFloat?_scientific {text : String} {negative : Bool} (layout : Layout) (d : Digits)
    (htext : text.toList = signed negative (layout.scientific d)) : readFloat? text = some (d.toFloat negative) := by
  have hchars := isNumeralChar_pointed (isDigit_of_mem_numeral d.digits)
  have hread := unsigned?_scientific layout d
  rw [scientific_eq] at htext hread
  obtain ⟨first, rest, hfront⟩ := List.exists_cons_of_ne_nil (pointed_ne_nil (@Nat.toDigits_ne_nil d.digits 10))
  change pointed (numeral d.digits) = first :: rest at hfront
  rw [hfront] at hchars htext hread
  apply readFloat?_signed htext (hchars first List.mem_cons_self) _ hread
  intro c hc
  rcases List.mem_append.mp hc with hmem | hmem
  · exact isNumberChar_of_isNumeralChar (hchars c (List.mem_cons_of_mem first hmem))
  · rcases List.mem_cons.mp hmem with rfl | hmem
    · rfl
    · exact isNumberChar_exponentText layout d.leading c hmem

theorem mantissa_scientific (layout : Layout) (d : Digits) (negative : Bool) :
    mantissa (signed negative (layout.scientific d)) = signed negative (pointed (numeral d.digits)) := by
  have hsplit : signed negative (layout.scientific d) =
      signed negative (pointed (numeral d.digits)) ++ 'e' :: layout.exponentText d.leading := by
    rw [scientific_eq]
    cases negative <;> rfl
  have hfront : ∀ c ∈ signed negative (pointed (numeral d.digits)), (c != 'e') = true := by
    have hdigits : ∀ c ∈ pointed (numeral d.digits), (c != 'e') = true := by
      intro c hc
      rw [bne_iff_ne]
      rintro rfl
      have hnumeral := isNumeralChar_pointed (isDigit_of_mem_numeral _) 'e' hc
      contradiction
    cases negative with
    | true => exact List.forall_mem_cons.mpr ⟨rfl, hdigits⟩
    | false => exact hdigits
  rw [hsplit]
  exact takeWhile_run hfront (by simp)

/-- Trimmed digits are written tidily in front of an exponent. -/
theorem isTidy_mantissa_scientific (layout : Layout) (h : d.IsTrimmed) (negative : Bool) :
    IsTidy (numeral d.digits).length (mantissa (signed negative (layout.scientific d))) := by
  have hdigits := isDigit_of_mem_numeral d.digits
  have htidy : IsTidy (numeral d.digits).length (pointed (numeral d.digits)) := by
    refine ⟨?_, ?_, ?_⟩
    · rw [digitSpan, filter_pointed hdigits]
      have hle := @length_strip_le (· == '0') [] [] (numeral d.digits)
        (by simp) (by simp)
      rwa [List.nil_append, List.append_nil] at hle
    · rw [getLast?_pointed]
      exact getLast?_ne_point hdigits
    · intro _
      rw [getLast?_pointed]
      exact h.getLast?_numeral
  rw [mantissa_scientific]
  exact htidy.signed (pointed_ne_nil Nat.toDigits_ne_nil) negative

end Layout

end SciCalc.Decimal
