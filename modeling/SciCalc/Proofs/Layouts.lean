import SciCalc.Proofs.Decompositions
import SciCalc.Proofs.LetterCase
import SciCalc.Proofs.LikeTokens

/-!
# Layouts

Blanks between the tokens of a text and the case of its letters change neither its postfix form and its value nor the
kind of its fault.
-/

namespace SciCalc

namespace Token

/-- The place is not within a number or a name. -/
def IsOutside (tokens : List Token) (place : Nat) : Prop :=
  ∀ token ∈ tokens, token.kind = .number ∨ token.kind = .identifier →
    ¬(token.offset < (place : Int) ∧ (place : Int) < token.offset + token.text.length)

instance (tokens : List Token) (place : Nat) : Decidable (IsOutside tokens place) :=
  inferInstanceAs (Decidable (∀ token ∈ tokens, _))

/-- The same characters from the place on, the letters in any case, with blanks put in at free places. -/
inductive IsRelaid (free : Nat → Prop) : Nat → List Char → List Char → Prop
  | nil (place : Nat) : IsRelaid free place [] []
  | char {place : Nat} {c c' : Char} {s s' : List Char} (hcase : c'.toLower = c.toLower)
    (h : IsRelaid free (place + 1) s s') : IsRelaid free place (c :: s) (c' :: s')
  | blank {place : Nat} {c : Char} {s s' : List Char} (hfree : free place) (hblank : Text.isBlank c)
    (h : IsRelaid free place s s') : IsRelaid free place s (c :: s')

section

variable {free : Nat → Prop} {place : Nat} {kind : Kind} {c c' : Char} {s s' text text' rest rest' : List Char}

theorem IsRelaid.of_nil (h : IsRelaid free place [] s') : ∀ c ∈ s', Text.isBlank c := by
  generalize hs : [] = s at h
  induction h with
  | nil => simp
  | char => contradiction
  | blank hfree hblank h ih => exact List.forall_mem_cons.mpr ⟨hblank, ih hs⟩

/-- In front of the next character there may be blanks, if the place is free. -/
theorem IsRelaid.of_cons (h : IsRelaid free place (c :: s) s') : ∃ gap c' rest', s' = gap ++ c' :: rest' ∧
    (∀ b ∈ gap, Text.isBlank b) ∧ (gap ≠ [] → free place) ∧ c'.toLower = c.toLower ∧
    IsRelaid free (place + 1) s rest' := by
  generalize hs : c :: s = t at h
  induction h with
  | nil => contradiction
  | @char place _ c' _ s' hcase h =>
    cases hs
    exact ⟨[], c', s', rfl, by simp, by simp, hcase, h⟩
  | @blank place blank _ _ hfree hblank h ih =>
    obtain ⟨gap, c', rest', rfl, hgap, -, hcase, hrest⟩ := ih hs
    exact ⟨blank :: gap, c', rest', rfl, List.forall_mem_cons.mpr ⟨hblank, hgap⟩, fun _ => hfree, hcase, hrest⟩

/-- Where no place is free only letters change. -/
theorem IsRelaid.of_closed (h : IsRelaid free place (text ++ rest) s')
    (hclosed : ∀ inner, place ≤ inner → inner < place + text.length → ¬free inner) : ∃ text' rest',
    s' = text' ++ rest' ∧ IsRecased text text' ∧ IsRelaid free (place + text.length) rest rest' := by
  induction text generalizing place s' with
  | nil => exact ⟨[], s', rfl, rfl, h⟩
  | cons c tail ih =>
    rw [List.length_cons] at hclosed
    obtain ⟨gap, c', more, rfl, -, hfree, hcase, hmore⟩ := h.of_cons
    obtain rfl : gap = [] := by
      by_contra hgap
      exact hclosed place (Nat.le_refl place) (by omega) (hfree hgap)
    obtain ⟨tail', rest', rfl, htail, hrest⟩ := ih hmore fun inner hlow hhigh => hclosed inner (by omega) (by omega)
    refine ⟨c' :: tail', rest', rfl, htail.cons hcase, ?_⟩
    rwa [List.length_cons, Nat.add_comm tail.length, ← Nat.add_assoc]

/-- Blanks stand in front of a token and not within it. -/
theorem IsRelaid.of_append (h : IsRelaid free place (text ++ rest) s') (hne : text ≠ [])
    (hclosed : ∀ inner, place < inner → inner < place + text.length → ¬free inner) : ∃ gap text' rest',
    s' = gap ++ (text' ++ rest') ∧ (∀ b ∈ gap, Text.isBlank b) ∧ IsRecased text text' ∧
    IsRelaid free (place + text.length) rest rest' := by
  obtain ⟨c, tail, rfl⟩ := List.exists_cons_of_ne_nil hne
  rw [List.length_cons] at hclosed
  obtain ⟨gap, c', more, rfl, hgap, -, hcase, hmore⟩ := h.of_cons
  obtain ⟨tail', rest', rfl, htail, hrest⟩ :=
    hmore.of_closed fun inner hlow hhigh => hclosed inner (by omega) (by omega)
  refine ⟨gap, c' :: tail', rest', rfl, hgap, htail.cons hcase, ?_⟩
  rwa [List.length_cons, Nat.add_comm tail.length, ← Nat.add_assoc]

/-- A character of a word has not been put in. -/
theorem IsRelaid.of_isWordChar (h : IsRelaid free place rest (c' :: s')) (hword : isWordChar c' = true) :
    ∃ c tail, rest = c :: tail ∧ c'.toLower = c.toLower ∧ IsRelaid free (place + 1) tail s' := by
  cases h with
  | @char _ c _ tail _ hcase h => exact ⟨c, tail, rfl, hcase, h⟩
  | blank hfree hblank h =>
    rw [isWordChar_of_isBlank hblank] at hword
    contradiction

theorem IsRelaid.of_isNumeralChar (h : IsRelaid free place rest (c :: s')) (hnumeral : isNumeralChar c = true) :
    ∃ tail, rest = c :: tail ∧ IsRelaid free (place + 1) tail s' := by
  obtain ⟨c', tail, rfl, hcase, htail⟩ := h.of_isWordChar (isWordChar_of_isNumeralChar hnumeral)
  obtain rfl := eq_of_not_letter (fun _ => isNumeralChar_of_isAlpha) hcase.symm hnumeral
  exact ⟨tail, rfl, htail⟩

theorem IsRelaid.continues (h : IsRelaid free place rest rest') (hcontinues : Continues text rest') :
    Continues text rest := by
  rcases hcontinues with ⟨digit, tail, rfl, hdigit⟩ | ⟨hwhole, digit, tail, rfl, hdigit⟩
  · obtain ⟨tail', rfl, -⟩ := h.of_isNumeralChar (isNumeralChar_of_isDigit hdigit)
    exact Or.inl ⟨digit, tail', rfl, hdigit⟩
  · obtain ⟨more, rfl, hmore⟩ := h.of_isNumeralChar rfl
    obtain ⟨tail', rfl, -⟩ := hmore.of_isNumeralChar (isNumeralChar_of_isDigit hdigit)
    exact Or.inr ⟨hwhole, digit, tail', rfl, hdigit⟩

theorem IsRelaid.isLongest (h : IsRelaid free place rest rest') (hlongest : IsLongest kind text rest)
    (hcase : IsRecased text text') : IsLongest kind text' rest' where
  lexeme := (hlongest.lexeme.recased hcase).1
  number hkind := by
    subst hkind
    obtain rfl : text' = text := (hlongest.lexeme.recased hcase).2 nofun
    obtain ⟨hnumeral, hends⟩ := isLongest_number_iff.mp hlongest
    exact (isLongest_number_iff.mpr ⟨hnumeral, fun hcontinues => hends (h.continues hcontinues)⟩).number rfl
  identifier hkind c' hc' := by
    obtain ⟨tail', rfl⟩ := List.head?_eq_some_iff.mp hc'
    refine Bool.eq_false_iff.mpr fun hpart => ?_
    obtain ⟨c, tail, rfl, hletter, -⟩ := h.of_isWordChar (isWordChar_of_isIdentifierPart hpart)
    rw [congr_toLower (fun _ => isIdentifierPart_of_isAlpha) hletter, hlongest.identifier hkind c rfl] at hpart
    contradiction

theorem IsRelaid.startsBad (h : IsRelaid free place rest rest') (hcase : c'.toLower = c.toLower)
    (hbad : startsBad (c :: rest) = true) : startsBad (c' :: rest') = true := by
  rcases Bool.or_eq_true_iff.mp hbad with hunknown | hpoint
  · simp [Token.startsBad, isKnown_congr hcase, hunknown]
  · simp only [Bool.and_eq_true, beq_iff_eq, Bool.not_eq_true', Option.any_eq_false] at hpoint
    obtain ⟨rfl, hrest⟩ := hpoint
    obtain rfl := eq_of_not_letter (fun _ => isNumeralChar_of_isAlpha) hcase rfl
    have hrest' : ∀ digit ∈ rest'.head?, digit.isDigit = false := by
      intro digit hdigit
      obtain ⟨tail', rfl⟩ := List.head?_eq_some_iff.mp hdigit
      refine Bool.eq_false_iff.mpr fun hdigit => ?_
      obtain ⟨tail, rfl, -⟩ := h.of_isNumeralChar (isNumeralChar_of_isDigit hdigit)
      rw [hrest digit rfl] at hdigit
      contradiction
    simpa [Token.startsBad, Option.any_eq_false] using Or.inr hrest'

theorem IsLexeme.isIdentifierPart (h : IsLexeme .identifier text) : ∀ c ∈ text, isIdentifierPart c := by
  cases h with
  | identifier hstart htail =>
    exact List.forall_mem_cons.mpr ⟨isIdentifierPart_of_isIdentifierStart hstart, htail⟩
  | sign h => exact absurd rfl (signKind?_ne h).2

/-- Tokens with the same text but for the case of a name are alike. -/
theorem IsLexeme.isAlike (h : IsLexeme kind text) (hcase : IsRecased text text') (offset offset' : Int) :
    IsAlike ⟨kind, String.ofList text, offset⟩ ⟨kind, String.ofList text', offset'⟩ := by
  obtain ⟨h', htext⟩ := h.recased hcase
  refine ⟨rfl, fun hkind => by rw [htext hkind], ?_⟩
  by_cases hkind : kind = .identifier
  · subst hkind
    rw [lower_of_isIdentifierPart h.isIdentifierPart, lower_of_isIdentifierPart h'.isIdentifierPart, hcase]
  · rw [htext hkind]

/-- Relaid texts are split into tokens that are alike, or both have a bad character. -/
theorem lexFrom_relaid {start : Nat} {tokens : List Token} (hscan : lexFrom start (goodPart s) = .ok tokens)
    (hfree : ∀ place, start ≤ place → free place → IsOutside tokens place) (h : IsRelaid free start s s')
    (start' : Nat) :
    (∃ tokens', lexFrom start s = .ok tokens ∧ lexFrom start' s' = .ok tokens' ∧
      List.Forall₂ IsAlike tokens tokens') ∨
    ∃ fault fault', lexFrom start s = .error fault ∧ lexFrom start' s' = .error fault' ∧
      fault.kind = fault'.kind := by
  induction s using lexing_induction generalizing start tokens s' start' with
  | nil =>
    have hblanks := lexFrom_blanks h.of_nil [] start'
    rw [List.append_nil, lexFrom] at hblanks
    rw [goodPart, lexFrom] at hscan
    cases hscan
    exact Or.inl ⟨[], by rw [lexFrom], hblanks, .nil⟩
  | blank c tail hblank ih =>
    obtain ⟨gap, c', rest', rfl, hgap, -, hcase, hrest⟩ := h.of_cons
    obtain rfl := eq_of_not_letter (fun _ => isBlank_of_isAlpha) hcase hblank
    rw [goodPart_blank hblank, lexFrom_blank hblank] at hscan
    rw [lexFrom_blanks hgap, lexFrom_blank hblank, lexFrom_blank hblank]
    exact ih hscan (fun place hplace => hfree place (by omega)) hrest _
  | token kind text rest hlongest ih =>
    rw [goodPart_append hlongest.lexeme, lexFrom_of_isLongest (hlongest.of_front (goodPart_isPrefix rest))] at hscan
    obtain ⟨later, hlater, rfl⟩ := map_eq_ok hscan
    have hclosed : ∀ inner, start < inner → inner < start + text.length → ¬free inner := by
      intro inner hlow hhigh hinner
      have hkind : kind = .number ∨ kind = .identifier := by
        cases hlongest.lexeme with
        | number h => exact Or.inl rfl
        | identifier hstart htail => exact Or.inr rfl
        | sign h =>
          rw [List.length_singleton] at hhigh
          omega
      refine hfree inner (by omega) hinner _ List.mem_cons_self hkind ⟨Int.ofNat_lt.mpr hlow, ?_⟩
      show (inner : Int) < (start : Int) + (String.ofList text).length
      rw [String.length_ofList]
      omega
    obtain ⟨gap, text', rest', rfl, hgap, hcase, hrest⟩ := h.of_append hlongest.lexeme.ne_nil hclosed
    rw [lexFrom_blanks hgap, lexFrom_of_isLongest hlongest, lexFrom_of_isLongest (hrest.isLongest hlongest hcase)]
    have hfreeLater : ∀ place, start + text.length ≤ place → free place → IsOutside later place :=
      fun place hplace hinner token ht => hfree place (by omega) hinner token (List.mem_cons_of_mem _ ht)
    rcases ih hlater hfreeLater hrest (start' + gap.length + text'.length) with
      ⟨tokens', htokens, htokens', halike⟩ | ⟨fault, fault', hfault, hfault', hkind⟩
    · rw [htokens, htokens']
      exact Or.inl ⟨_, rfl, rfl, .cons (hlongest.lexeme.isAlike hcase _ _) halike⟩
    · rw [hfault, hfault']
      exact Or.inr ⟨fault, fault', rfl, rfl, hkind⟩
  | bad c tail hbad =>
    obtain ⟨gap, c', rest', rfl, hgap, -, hcase, hrest⟩ := h.of_cons
    rw [lexFrom_blanks hgap, lexFrom_of_startsBad hbad, lexFrom_of_startsBad (hrest.startsBad hcase hbad)]
    exact Or.inr ⟨_, _, rfl, rfl, rfl⟩

end

end Token

namespace Expression

open Token

/-- A text that is laid out in another way has the same postfix form and the same value, or a fault of the same
kind. Blanks are put in outside the numbers and names that stand before the first bad character. -/
theorem compile_relaid {text relaid : String} {tokens : List Token}
    (hscan : lexFrom 0 (goodPart text.toList) = .ok tokens)
    (h : IsRelaid (IsOutside tokens) 0 text.toList relaid.toList) :
    EndAlike Eq (compile text) (compile relaid) ∧
    (∀ unit, EndAlike Eq (evaluate text unit) (evaluate relaid unit)) ∧
    ∀ unit, EndAlike Eq (evaluateIn text unit) (evaluateIn relaid unit) := by
  have hcompile : EndAlike Eq (compile text) (compile relaid) := by
    unfold compile lex
    rcases lexFrom_relaid hscan (fun _ _ => id) h 0 with
      ⟨tokens', hlex, hlex', halike⟩ | ⟨fault, fault', hlex, hlex', hkind⟩
    · rw [hlex, hlex']
      cases halike with
      | nil => exact .error (.same _)
      | cons hfirst hrest => exact Postfix.ofTokens_alike (.cons hfirst hrest)
    · rw [hlex, hlex']
      exact .error (.fault hkind)
  refine ⟨hcompile, fun unit => hcompile.bind ?_, fun unit => hcompile.bind ?_⟩
  · rintro elements _ rfl
    exact .refl _
  · rintro elements _ rfl
    exact .refl _

/-- Blanks and capitals, in a text that compiles and behind a bad character. -/
theorem compile_relaid_capitals :
    (lexFrom 0 (goodPart "2*sin(pi)".toList) = .ok [⟨.number, "2", 0⟩, ⟨.operator, "*", 1⟩, ⟨.identifier, "sin", 2⟩,
        ⟨.leftParen, "(", 5⟩, ⟨.identifier, "pi", 6⟩, ⟨.rightParen, ")", 8⟩] ∧
      EndAlike Eq (compile "2*sin(pi)") (compile "2 * SIN (Pi)")) ∧
    (lexFrom 0 (goodPart "x$1.5y".toList) = .ok [⟨.identifier, "x", 0⟩] ∧
      EndAlike Eq (compile "x$1.5y") (compile " X$1. 5Y")) := by
  have htwo : IsNumeral ['2'] := isNumeral_digit rfl
  have hargument := (@spells_name 'p' ['i'] rfl (List.all_eq_true.mp rfl) 6).append rfl (spells_rightParen 8)
  have hfactor := (spells_functionName (.unary .sin) 2).append rfl hargument.leftParen
  have hproduct := (spells_numeral htwo 0).append rfl (@Spells.sign 1 _ _ '*' .operator "*" hfactor rfl rfl)
  have hcall : lexFrom 0 (goodPart "2*sin(pi)".toList) = .ok [⟨.number, "2", 0⟩, ⟨.operator, "*", 1⟩,
      ⟨.identifier, "sin", 2⟩, ⟨.leftParen, "(", 5⟩, ⟨.identifier, "pi", 6⟩, ⟨.rightParen, ")", 8⟩] :=
    lexFrom_of_spells hproduct
  have hbad : lexFrom 0 (goodPart "x$1.5y".toList) = .ok [⟨.identifier, "x", 0⟩] :=
    lexFrom_of_spells (@spells_name 'x' [] rfl (List.forall_mem_nil _) 0)
  refine ⟨⟨hcall, (compile_relaid hcall ?_).1⟩, hbad, (compile_relaid hbad ?_).1⟩
  · exact .char rfl (.blank (by decide) rfl (.char rfl (.blank (by decide) rfl (.char rfl (.char rfl (.char rfl
      (.blank (by decide) rfl (.char rfl (.char rfl (.char rfl (.char rfl (.nil _))))))))))))
  · exact .blank (by decide) rfl (.char rfl (.char rfl (.char rfl (.char rfl (.blank (by decide) rfl (.char rfl
      (.char rfl (.nil _))))))))

end Expression

end SciCalc
