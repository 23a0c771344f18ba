import SciCalc.Proofs.LongestMatches

/-!
# Bad characters

The lexer fails exactly if there is a bad character in the text, and it fails at the first one. Whether a character is
bad is seen from it and the one behind it, wherever tokens begin.
-/

namespace SciCalc.Token

/-- At the place stands a bad character. -/
def IsBadAt (s : List Char) (place : Nat) : Prop := startsBad (s.drop place) = true

instance (s : List Char) (place : Nat) : Decidable (IsBadAt s place) := inferInstanceAs (Decidable (_ = _))

/-- The text before its first bad character. -/
def goodPart : List Char → List Char
  | [] => []
  | c :: rest => if startsBad (c :: rest) then [] else c :: goodPart rest

theorem startsBad_of_known {c : Char} (hknown : isKnown c = true) (hpoint : c ≠ '.') (rest : List Char) :
    startsBad (c :: rest) = false := by
  simp [startsBad, hknown, hpoint]

theorem startsBad_blank {c : Char} (h : Text.isBlank c = true) (rest : List Char) : startsBad (c :: rest) = false := by
  refine startsBad_of_known (by simp [isKnown, h]) ?_ rest
  rintro rfl
  contradiction

/-- No character of a token is bad. -/
theorem IsLexeme.startsBad {kind : Kind} {before tail : List Char} {c : Char}
    (h : IsLexeme kind (before ++ c :: tail)) (rest : List Char) : startsBad (c :: (tail ++ rest)) = false := by
  generalize hs : before ++ c :: tail = text at h
  have hmem : c ∈ text := hs ▸ by simp
  cases h with
  | number h =>
    by_cases hpoint : c = '.'
    · subst hpoint hs
      obtain ⟨-, hdigits, hne⟩ := h.around_point
      obtain ⟨digit, more, rfl⟩ := List.exists_cons_of_ne_nil hne
      have hdigit := hdigits digit List.mem_cons_self
      simp [Token.startsBad, isKnown, hdigit]
    · have hdigit : c.isDigit = true := by simpa [isNumeralChar, hpoint] using h.chars c hmem
      exact startsBad_of_known (by simp [isKnown, isIdentifierPart, Char.isAlphanum, hdigit]) hpoint _
  | @identifier first word hstart htail =>
    have hpart : isIdentifierPart c = true := by
      rcases List.mem_cons.mp hmem with rfl | hc
      · exact isIdentifierPart_of_isIdentifierStart hstart
      · exact htail c hc
    refine startsBad_of_known (by simp [isKnown, hpart]) ?_ _
    rintro rfl
    contradiction
  | @sign sign kind hkind =>
    obtain rfl : c = sign := by simpa using hmem
    have hsign := mem_signs_of_signKind? hkind
    refine startsBad_of_known (by simp [isKnown, hsign]) ?_ _
    rintro rfl
    contradiction

theorem goodPart_blank {c : Char} (h : Text.isBlank c = true) (rest : List Char) :
    goodPart (c :: rest) = c :: goodPart rest := by
  rw [goodPart, startsBad_blank h]
  rfl

theorem goodPart_append {kind : Kind} {text : List Char} (h : IsLexeme kind text) (rest : List Char) :
    goodPart (text ++ rest) = text ++ goodPart rest := by
  have hback : ∀ before back, text = before ++ back → goodPart (back ++ rest) = back ++ goodPart rest := by
    intro before back htext
    induction back generalizing before with
    | nil => rfl
    | cons c tail ih =>
      subst htext
      have htail := ih (before ++ [c]) (by simp)
      rw [List.cons_append, goodPart, h.startsBad rest, if_neg Bool.false_ne_true, htail, List.cons_append]
  exact hback [] text rfl

theorem goodPart_of_startsBad {c : Char} {rest : List Char} (h : startsBad (c :: rest) = true) :
    goodPart (c :: rest) = [] := if_pos h

/-- There is no bad character in the text, or the first one stands behind the good part. -/
theorem goodPart_cases (s : List Char) : (∀ place < (goodPart s).length, ¬IsBadAt s place) ∧
    ((goodPart s = s ∧ ∀ place, ¬IsBadAt s place) ∨
      ∃ c rest, s = goodPart s ++ c :: rest ∧ startsBad (c :: rest) = true) := by
  induction s with
  | nil => exact ⟨by simp [goodPart], Or.inl ⟨rfl, by simp [IsBadAt, startsBad]⟩⟩
  | cons c rest ih =>
    obtain ⟨hbefore, hcases⟩ := ih
    by_cases hbad : startsBad (c :: rest) = true
    · rw [goodPart_of_startsBad hbad]
      exact ⟨by simp, Or.inr ⟨c, rest, rfl, hbad⟩⟩
    · rw [goodPart, if_neg hbad]
      have hcons {place : Nat} (hrest : ∀ place', place = place' + 1 → ¬IsBadAt rest place') :
          ¬IsBadAt (c :: rest) place := by
        cases place with
        | zero => exact hbad
        | succ place' => exact hrest place' rfl
      refine ⟨fun place hplace => hcons fun place' hsucc => hbefore place' ?_, ?_⟩
      · rw [List.length_cons] at hplace
        omega
      rcases hcases with ⟨hwhole, hnone⟩ | ⟨first, more, hsplit, hfirst⟩
      · exact Or.inl ⟨by rw [hwhole], fun place => hcons fun place' _ => hnone place'⟩
      · exact Or.inr ⟨first, more, by rw [List.cons_append, ← hsplit], hfirst⟩

theorem goodPart_isPrefix (s : List Char) : goodPart s <+: s := by
  rcases (goodPart_cases s).2 with ⟨hwhole, -⟩ | ⟨c, rest, hsplit, -⟩
  · exact ⟨[], by rw [List.append_nil, hwhole]⟩
  · exact ⟨c :: rest, hsplit.symm⟩

/-- The good part is split into tokens. Behind it the lexer fails. -/
theorem lexFrom_goodPart (s : List Char) : ∀ offset, (∃ tokens, lexFrom offset (goodPart s) = .ok tokens) ∧
    ∀ c rest, s = goodPart s ++ c :: rest →
      lexFrom offset s = .error (.unexpectedCharacter (offset + (goodPart s).length : Nat) c) := by
  induction s using lexing_induction with
  | nil =>
    intro offset
    exact ⟨⟨[], by rw [goodPart, lexFrom]⟩, fun c rest h => by simp [goodPart] at h⟩
  | blank c tail hblank ih =>
    intro offset
    obtain ⟨⟨tokens, hlex⟩, hfail⟩ := ih (offset + 1)
    rw [goodPart_blank hblank, lexFrom_blank hblank, lexFrom_blank hblank]
    refine ⟨⟨tokens, hlex⟩, fun first rest h => ?_⟩
    have hplace : offset + (c :: goodPart tail).length = offset + 1 + (goodPart tail).length := by
      rw [List.length_cons]
      omega
    rw [hfail first rest (List.cons.inj h).2, hplace]
  | token kind text rest hlongest ih =>
    intro offset
    obtain ⟨⟨tokens, hlex⟩, hfail⟩ := ih (offset + text.length)
    rw [goodPart_append hlongest.lexeme, lexFrom_of_isLongest (hlongest.of_front (goodPart_isPrefix rest)),
      lexFrom_of_isLongest hlongest, hlex]
    refine ⟨⟨_, rfl⟩, fun first more h => ?_⟩
    have hplace : offset + (text ++ goodPart rest).length = offset + text.length + (goodPart rest).length := by
      rw [List.length_append]
      omega
    rw [List.append_assoc] at h
    rw [hfail first more (List.append_cancel_left h), hplace]
    rfl
  | bad c tail hbad =>
    intro offset
    rw [goodPart_of_startsBad hbad, lexFrom_of_startsBad hbad]
    refine ⟨⟨[], by rw [lexFrom]⟩, fun first rest h => ?_⟩
    obtain ⟨rfl, -⟩ := List.cons.inj h
    rfl

/-- The lexer fails exactly if some character is bad, and then at the first one. The text before it is split into
tokens. -/
theorem lex_fails_at_first_bad (text : String) :
    ((∃ fault, lex text = .error fault) ↔ ∃ place, IsBadAt text.toList place) ∧
    ∀ fault, lex text = .error fault → ∃ (place : Nat) (c : Char), fault = .unexpectedCharacter place c ∧
      text.toList[place]? = some c ∧ IsBadAt text.toList place ∧ (∀ earlier < place, ¬IsBadAt text.toList earlier) ∧
      ∃ tokens, lex (String.ofList (text.toList.take place)) = .ok tokens := by
  obtain ⟨hbefore, hcases⟩ := goodPart_cases text.toList
  obtain ⟨⟨tokens, hlex⟩, hfail⟩ := lexFrom_goodPart text.toList 0
  rcases hcases with ⟨hwhole, hnone⟩ | ⟨c, rest, hsplit, hbad⟩
  · rw [hwhole] at hlex
    have hnever : ¬∃ fault, lex text = .error fault := by
      rintro ⟨fault, hfault⟩
      rw [lex, hlex] at hfault
      contradiction
    refine ⟨⟨fun h => absurd h hnever, fun h => ?_⟩, fun fault h => absurd ⟨fault, h⟩ hnever⟩
    obtain ⟨place, hplace⟩ := h
    exact absurd hplace (hnone place)
  · generalize goodPart text.toList = front at hbefore hlex hfail hsplit
    have herror : lex text = .error (.unexpectedCharacter (front.length : Nat) c) := by
      rw [lex, hfail c rest hsplit, Nat.zero_add]
    have hplace : IsBadAt text.toList front.length := by
      rw [IsBadAt, hsplit, List.drop_left]
      exact hbad
    refine ⟨⟨fun _ => ⟨_, hplace⟩, fun _ => ⟨_, herror⟩⟩, fun fault h => ?_⟩
    rw [herror] at h
    cases h
    refine ⟨front.length, c, rfl, ?_, hplace, hbefore, tokens, ?_⟩
    · rw [hsplit, List.getElem?_append_right (Nat.le_refl _), Nat.sub_self]
      rfl
    · rw [hsplit, List.take_left, lex, String.toList_ofList]
      exact hlex

end SciCalc.Token
