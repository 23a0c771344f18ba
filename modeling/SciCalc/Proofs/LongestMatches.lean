import Mathlib.Data.List.Basic
import SciCalc.Proofs.LexedTokens
import SciCalc.Proofs.LexerSteps

/-!
# Longest matches

What the lexer splits off a text: blanks, then the longest number or name that the text begins with, or else one sign.
A text that begins with none of these begins with a bad character.
-/

namespace SciCalc.Token

/-- The texts of tokens of each kind. -/
inductive IsLexeme : Kind → List Char → Prop
  | number {text : List Char} (h : IsNumeral text) : IsLexeme .number text
  | identifier {c : Char} {tail : List Char} (hstart : isIdentifierStart c) (htail : ∀ c ∈ tail, isIdentifierPart c) :
    IsLexeme .identifier (c :: tail)
  | sign {c : Char} {kind : Kind} (h : signKind? c = some kind) : IsLexeme kind [c]

/-- The text of a token that does not go on in the rest of the text behind it. -/
structure IsLongest (kind : Kind) (text rest : List Char) : Prop where
  lexeme : IsLexeme kind text
  /-- A number cannot be extended to a longer one. -/
  number : kind = .number → ∀ more, more ≠ [] → more <+: rest → ¬IsNumeral (text ++ more)
  /-- Behind a name there is no letter, digit or low line. -/
  identifier : kind = .identifier → ∀ c ∈ rest.head?, isIdentifierPart c = false

section

variable {text rest more : List Char}

theorem point_not_mem {digits : List Char} (h : ∀ c ∈ digits, c.isDigit) : '.' ∉ digits := by
  intro hmem
  have hpoint := h '.' hmem
  contradiction

/-- Around a point stand digits, at least one of them behind it. -/
theorem IsNumeral.around_point (h : IsNumeral (text ++ '.' :: rest)) :
    (∀ c ∈ text, c.isDigit) ∧ (∀ c ∈ rest, c.isDigit) ∧ rest ≠ [] := by
  generalize hs : text ++ '.' :: rest = s at h
  cases h with
  | whole digits hd hne =>
    subst hs
    exact absurd (hd '.' (by simp)) (by decide)
  | pointed whole fraction hw hf hne =>
    have hright : '.' ∉ fraction := point_not_mem hf
    obtain ⟨rfl, -, rfl⟩ := (List.append_cons_inj_of_notMem (point_not_mem hw) hright).mp hs.symm
    exact ⟨hw, hf, hne⟩

theorem IsNumeral.append_digit {digit : Char} (h : IsNumeral text) (hdigit : digit.isDigit) :
    IsNumeral (text ++ [digit]) := by
  have hall {digits : List Char} (hd : ∀ c ∈ digits, c.isDigit) : ∀ c ∈ digits ++ [digit], c.isDigit := by
    intro c hc
    rcases List.mem_append.mp hc with hc | hc
    · exact hd c hc
    · rwa [List.mem_singleton.mp hc]
  cases h with
  | whole digits hd hne => exact .whole _ (hall hd) (by simp)
  | pointed whole fraction hw hf hne =>
    rw [List.append_assoc, List.cons_append]
    exact .pointed whole _ hw (hall hf) (by simp)

/-- A number can be extended to a longer one exactly if the text goes on with digits or, behind a whole number, with a
point and digits. -/
theorem exists_longer_iff (h : IsNumeral text) :
    (∃ more, more ≠ [] ∧ more <+: rest ∧ IsNumeral (text ++ more)) ↔ Continues text rest := by
  constructor
  · rintro ⟨more, hne, ⟨behind, rfl⟩, hlonger⟩
    obtain ⟨first, tail, rfl⟩ := List.exists_cons_of_ne_nil hne
    have hfirst : isNumeralChar first = true := hlonger.chars first (by simp)
    rcases Bool.or_eq_true_iff.mp hfirst with hdigit | hpoint
    · exact Or.inl ⟨first, _, rfl, hdigit⟩
    · obtain rfl : first = '.' := by simpa using hpoint
      obtain ⟨hwhole, hfraction, hne⟩ := hlonger.around_point
      obtain ⟨digit, tail, rfl⟩ := List.exists_cons_of_ne_nil hne
      exact Or.inr ⟨hwhole, digit, _, rfl, hfraction digit List.mem_cons_self⟩
  · rintro (⟨digit, tail, rfl, hdigit⟩ | ⟨hwhole, digit, tail, rfl, hdigit⟩)
    · exact ⟨[digit], by simp, ⟨tail, rfl⟩, h.append_digit hdigit⟩
    · exact ⟨['.', digit], by simp, ⟨tail, rfl⟩, .pointed text [digit] hwhole (by simpa using hdigit) (by simp)⟩

theorem dropWhile_ne_digit {s : List Char} {digit : Char} {tail : List Char} (hdigit : digit.isDigit) :
    s.dropWhile Char.isDigit ≠ digit :: tail := by
  intro hs
  have hnot := List.head?_dropWhile_not Char.isDigit s
  rw [hs] at hnot
  simp [hdigit] at hnot

theorem not_continues_of_splitNumber? {s : List Char} (h : splitNumber? s = some (text, rest)) :
    ¬Continues text rest := by
  simp only [splitNumber?] at h
  split at h
  · rename_i tail htail
    split at h
    · rename_i hempty
      split at h
      · contradiction
      · cases h
        rw [htail]
        rintro (⟨digit, more, hrest, hdigit⟩ | ⟨-, digit, more, hrest, hdigit⟩)
        · cases hrest
          contradiction
        · cases hrest
          simp [hdigit] at hempty
    · cases h
      rintro (⟨digit, more, hrest, hdigit⟩ | ⟨hwhole, -⟩)
      · exact dropWhile_ne_digit hdigit hrest
      · exact point_not_mem hwhole (by simp)
  · rename_i hpoint
    split at h
    · contradiction
    · cases h
      rintro (⟨digit, more, hrest, hdigit⟩ | ⟨-, digit, more, hrest, -⟩)
      · exact dropWhile_ne_digit hdigit hrest
      · exact hpoint _ hrest

theorem splitNumber?_point (h : ∀ c ∈ rest.head?, c.isDigit = false) : splitNumber? ('.' :: rest) = none := by
  have hfraction : rest.takeWhile Char.isDigit = [] := @takeWhile_run _ _ [] rest (by simp) h
  simp [splitNumber?, hfraction]

/-- A text that begins with a digit, or with a point and a digit, begins with a number. -/
theorem not_begins_of_splitNumber? {c : Char} (h : splitNumber? (c :: rest) = none) :
    c.isDigit = false ∧ (c = '.' → ∀ digit ∈ rest.head?, digit.isDigit = false) := by
  constructor
  · apply Bool.eq_false_iff.mpr
    intro hdigit
    simp only [splitNumber?, List.takeWhile_cons_of_pos hdigit, List.isEmpty_cons, Bool.false_eq_true,
      if_false] at h
    split at h
    · split at h <;> contradiction
    · contradiction
  · rintro rfl digit hmem
    obtain ⟨tail, rfl⟩ := List.head?_eq_some_iff.mp hmem
    apply Bool.eq_false_iff.mpr
    intro hdigit
    simp [splitNumber?, hdigit] at h

end

/-- The characters of tokens and those between them. A point is one of them only before a digit. -/
def isKnown (c : Char) : Bool := Text.isBlank c || isIdentifierPart c || signs.contains c || c == '.'

/-- The text begins with a bad character: one that is not known, or a point that no digit follows. -/
def startsBad : List Char → Bool
  | [] => false
  | c :: rest => !isKnown c || (c == '.' && !rest.head?.any Char.isDigit)

theorem exists_signKind? {c : Char} (h : c ∈ signs) : ∃ kind, signKind? c = some kind := by
  have hall : (signs.all fun c => (signKind? c).isSome) = true := rfl
  exact Option.isSome_iff_exists.mp (List.all_eq_true.mp hall c h)

theorem signKind?_ne {c : Char} {kind : Kind} (h : signKind? c = some kind) :
    kind ≠ .number ∧ kind ≠ .identifier := by
  have hall : (signs.all fun c => signKind? c ≠ some .number ∧ signKind? c ≠ some .identifier) = true := rfl
  have hc := of_decide_eq_true (List.all_eq_true.mp hall c (mem_signs_of_signKind? h))
  rw [h] at hc
  simpa using hc

section

variable {kind : Kind} {text rest : List Char}

theorem isLongest_number_iff : IsLongest .number text rest ↔ IsNumeral text ∧ ¬Continues text rest := by
  constructor
  · rintro ⟨hlexeme, hnumber, -⟩
    cases hlexeme with
    | number h =>
      refine ⟨h, fun hcontinues => ?_⟩
      obtain ⟨more, hne, hmore, hlonger⟩ := (exists_longer_iff h).mpr hcontinues
      exact hnumber rfl more hne hmore hlonger
    | sign h => exact absurd rfl (signKind?_ne h).1
  · rintro ⟨h, hends⟩
    refine ⟨.number h, fun _ more hne hmore hlonger => ?_, nofun⟩
    exact hends ((exists_longer_iff h).mp ⟨more, hne, hmore, hlonger⟩)

theorem isLongest_sign {c : Char} (h : signKind? c = some kind) (rest : List Char) : IsLongest kind [c] rest :=
  ⟨.sign h, fun hnumber => absurd hnumber (signKind?_ne h).1, fun hname => absurd hname (signKind?_ne h).2⟩

/-- A token is not empty. -/
theorem IsLexeme.ne_nil (h : IsLexeme kind text) : text ≠ [] := by
  cases h with
  | number h => exact h.ne_nil
  | identifier | sign => exact List.cons_ne_nil _ _

/-- In front of less text a token is no less the longest. -/
theorem IsLongest.of_front {front : List Char} (h : IsLongest kind text rest) (hfront : front <+: rest) :
    IsLongest kind text front where
  lexeme := h.lexeme
  number hkind more hne hmore := h.number hkind more hne (hmore.trans hfront)
  identifier hkind c hc := by
    obtain ⟨behind, rfl⟩ := hfront
    obtain ⟨tail, rfl⟩ := List.head?_eq_some_iff.mp hc
    exact h.identifier hkind c rfl

/-- The lexer splits off the longest token. -/
theorem lexFrom_of_isLongest (h : IsLongest kind text rest) (offset : Nat) :
    lexFrom offset (text ++ rest) =
      (lexFrom (offset + text.length) rest).map (⟨kind, String.ofList text, offset⟩ :: ·) := by
  cases h.lexeme with
  | number hnumeral =>
    have hsplit := splitNumber?_of_not_continues hnumeral (isLongest_number_iff.mp h).2
    obtain ⟨c, tail, rfl⟩ := List.exists_cons_of_ne_nil hnumeral.ne_nil
    have hblank : Text.isBlank c = false :=
      isBlank_of_isWordChar (isWordChar_of_isNumeralChar (hnumeral.chars c List.mem_cons_self))
    exact lexFrom_of_splitNumber? hblank hsplit offset
  | identifier hstart htail => exact lexFrom_identifier hstart htail (h.identifier rfl) offset
  | sign hkind => exact lexFrom_sign hkind rfl rest offset

/-- The lexer stops at a bad character. -/
theorem lexFrom_of_startsBad {c : Char} (h : startsBad (c :: rest) = true) (offset : Nat) :
    lexFrom offset (c :: rest) = .error (.unexpectedCharacter offset c) := by
  rcases Bool.or_eq_true_iff.mp h with hunknown | hpoint
  · simp only [isKnown, Bool.not_or, Bool.and_eq_true, Bool.not_eq_true'] at hunknown
    obtain ⟨⟨⟨hblank, hpart⟩, hsign⟩, hpoint⟩ := hunknown
    have hstart : ¬isIdentifierStart c = true := fun hstart =>
      absurd (isIdentifierPart_of_isIdentifierStart hstart) (Bool.eq_false_iff.mp hpart)
    have hnumeral : isNumeralChar c = false := by
      have hdigit : c.isDigit = false := by
        simp only [isIdentifierPart, Char.isAlphanum, Bool.or_eq_false_iff] at hpart
        exact hpart.1.2
      rw [isNumeralChar, hdigit, hpoint, Bool.or_self]
    have hkind : signKind? c = none := by
      apply Option.eq_none_iff_forall_ne_some.mpr
      intro kind hkind
      have hmem : signs.contains c = true := List.contains_iff_mem.mpr (mem_signs_of_signKind? hkind)
      rw [hsign] at hmem
      contradiction
    rw [lexFrom_of_not_numeral hblank hnumeral, if_neg hstart, hkind]
  · simp only [Bool.and_eq_true, beq_iff_eq, Bool.not_eq_true', Option.any_eq_false] at hpoint
    obtain ⟨rfl, hrest⟩ := hpoint
    have hsplit : splitNumber? ('.' :: rest) = none := splitNumber?_point (by simpa using hrest)
    rw [lexFrom, if_neg (by decide)]
    split
    · rename_i hsome
      rw [hsplit] at hsome
      contradiction
    · rfl

theorem startsBad_of_no_token {c : Char} (hblank : Text.isBlank c = false)
    (hsplit : splitNumber? (c :: rest) = none) (hstart : isIdentifierStart c = false) (hkind : signKind? c = none) :
    startsBad (c :: rest) = true := by
  obtain ⟨hdigit, hpoint⟩ := not_begins_of_splitNumber? hsplit
  by_cases hc : c = '.'
  · subst hc
    have hrest : rest.head?.any Char.isDigit = false := by
      simpa [Option.any_eq_false] using hpoint rfl
    simp [startsBad, hrest]
  · have hpart : isIdentifierPart c = false := by
      simp only [isIdentifierStart, Bool.or_eq_false_iff] at hstart
      simp [isIdentifierPart, Char.isAlphanum, hstart, hdigit]
    have hsign : c ∉ signs := by
      intro hmem
      obtain ⟨kind, hsome⟩ := exists_signKind? hmem
      rw [hkind] at hsome
      contradiction
    simp [startsBad, isKnown, hblank, hpart, hsign, hc]

end

/-- What holds of the empty text, and in front of a text of which it holds of a blank and of a longest token, and of
texts that begin with a bad character, holds of every text. -/
@[elab_as_elim]
theorem lexing_induction {P : List Char → Prop} (nil : P [])
    (blank : ∀ c tail, Text.isBlank c = true → P tail → P (c :: tail))
    (token : ∀ kind text rest, IsLongest kind text rest → P rest → P (text ++ rest))
    (bad : ∀ c tail, startsBad (c :: tail) = true → P (c :: tail)) (s : List Char) : P s := by
  have hall (offset : Nat) : P s := by
    fun_induction lexFrom offset s with
    | case1 => exact nil
    | case2 offset c tail hblank ih => exact blank c tail hblank ih
    | case3 offset c tail hblank text rest hsplit ih =>
      have hnumeral := isNumeral_of_splitNumber? hsplit
      rw [← (splitNumber?_append hsplit).1]
      exact token .number text rest
        (isLongest_number_iff.mpr ⟨hnumeral, not_continues_of_splitNumber? hsplit⟩) ih
    | case4 offset c tail hblank hsplit hstart text ih =>
      have hlongest : IsLongest .identifier text (tail.dropWhile isIdentifierPart) := by
        refine ⟨.identifier hstart fun c hc => mem_takeWhile hc, fun hkind => by contradiction, fun _ c hc => ?_⟩
        have hnot := List.head?_dropWhile_not isIdentifierPart tail
        rw [Option.mem_def.mp hc] at hnot
        simpa using hnot
      have happend : text ++ tail.dropWhile isIdentifierPart = c :: tail := by
        rw [List.cons_append, List.takeWhile_append_dropWhile]
      rw [← happend]
      exact token .identifier text _ hlongest ih
    | case5 offset c tail hblank hsplit hstart kind hkind ih =>
      exact token kind [c] tail (isLongest_sign hkind tail) ih
    | case6 offset c tail hblank hsplit hstart hkind =>
      exact bad c tail (startsBad_of_no_token (Bool.eq_false_iff.mpr hblank) hsplit (Bool.eq_false_iff.mpr hstart) hkind)
  exact hall 0

end SciCalc.Token
