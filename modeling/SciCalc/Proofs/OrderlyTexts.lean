import SciCalc.Proofs.LexedTokens
import SciCalc.Proofs.LexerSteps
import SciCalc.Proofs.Placement

/-!
# Orderly texts

What comes behind the signs of an infix text: neither a star nor a caret right behind a star, and behind a closing
parenthesis only a sign that may stand behind a value.
-/

namespace SciCalc.Token

/-- The signs that may stand behind a value. -/
def signsBehind : List Char := ['+', '-', '*', '/', '^', '%', ')', ',']

/-- The text ends or goes on, perhaps behind blanks, with a sign that may stand behind a value. -/
def GoesOn (s : List Char) : Prop := ∀ c ∈ (s.dropWhile Text.isBlank).head?, c ∈ signsBehind

/-- The text begins neither with a star nor with a caret, which may be written with two of them. -/
def LeavesStar (s : List Char) : Prop := ∀ c ∈ s.head?, c ≠ '*' ∧ c ≠ '^'

def IsOrderly : List Char → Prop
  | [] => True
  | c :: rest => (c = '*' → LeavesStar rest) ∧ (c = ')' → GoesOn rest) ∧ IsOrderly rest

/-- What the place before a text tells about it. -/
structure Follows (place : Place) (s : List Char) : Prop where
  operand : place.Begins → LeavesStar s
  value : place = .value → GoesOn s
  orderly : IsOrderly s

theorem goesOn_blank {c : Char} (hc : Text.isBlank c = true) {rest : List Char} : GoesOn (c :: rest) ↔ GoesOn rest := by
  rw [GoesOn, List.dropWhile_cons_of_pos hc, GoesOn]

theorem goesOn_cons {c : Char} (hc : Text.isBlank c = false) {rest : List Char} :
    GoesOn (c :: rest) ↔ c ∈ signsBehind := by
  rw [GoesOn, List.dropWhile_cons_of_neg (Bool.eq_false_iff.mp hc)]
  simp

theorem leavesStar_cons {c : Char} {rest : List Char} : LeavesStar (c :: rest) ↔ c ≠ '*' ∧ c ≠ '^' := by
  simp [LeavesStar]

/-! ### Characters that are no signs -/

theorem not_mem_signs_of_isWordChar {c : Char} (hc : isWordChar c = true) : c ∉ signs := by
  intro hsign
  rw [(isWordChar_of_mem_signs hsign).1] at hc
  contradiction

theorem not_mem_signs_of_isBlank {c : Char} (hc : Text.isBlank c = true) : c ∉ signs := by
  intro hsign
  rw [(isWordChar_of_mem_signs hsign).2] at hc
  contradiction

theorem leavesStar_of_not_sign {c : Char} (hc : c ∉ signs) (rest : List Char) : LeavesStar (c :: rest) := by
  apply leavesStar_cons.mpr
  constructor
  · rintro rfl
    exact hc (by decide)
  · rintro rfl
    exact hc (by decide)

theorem isOrderly_cons {c : Char} (hc : c ∉ signs) {rest : List Char} (h : IsOrderly rest) : IsOrderly (c :: rest) := by
  refine ⟨?_, ?_, h⟩
  · rintro rfl
    exact absurd (by decide) hc
  · rintro rfl
    exact absurd (by decide) hc

/-- Numerals, names and blanks are orderly in themselves. -/
theorem isOrderly_append {front rest : List Char} (hfront : ∀ c ∈ front, c ∉ signs) (h : IsOrderly rest) :
    IsOrderly (front ++ rest) := by
  induction front with
  | nil => exact h
  | cons c tail ih =>
    obtain ⟨hc, htail⟩ := List.forall_mem_cons.mp hfront
    exact isOrderly_cons hc (ih htail)

theorem IsOrderly.behind {front rest : List Char} (h : IsOrderly (front ++ rest)) : IsOrderly rest := by
  induction front with
  | nil => exact h
  | cons c tail ih => exact ih h.2.2

section

variable {place next : Place} {rest : List Char}

theorem Follows.blank {c : Char} (hc : Text.isBlank c = true) (h : Follows place rest) : Follows place (c :: rest) := by
  have hsign := not_mem_signs_of_isBlank hc
  constructor
  · intro _
    exact leavesStar_of_not_sign hsign rest
  · intro hvalue
    exact (goesOn_blank hc).mpr (h.value hvalue)
  · exact isOrderly_cons hsign h.orderly

/-- A number or a name stands where an operand may begin. -/
theorem Follows.word {word : List Char} (hword : ∀ c ∈ word, isWordChar c) (hne : word ≠ []) (hplace : place ≠ .value)
    (h : Follows next rest) : Follows place (word ++ rest) := by
  constructor
  · intro _
    obtain ⟨c, tail, rfl⟩ := List.exists_cons_of_ne_nil hne
    have hsign := not_mem_signs_of_isWordChar (hword c List.mem_cons_self)
    exact leavesStar_of_not_sign hsign (tail ++ rest)
  · intro hvalue
    contradiction
  · exact isOrderly_append (fun c hc => not_mem_signs_of_isWordChar (hword c hc)) h.orderly

/-- A sign stands where the place before it admits it, and the place behind it tells what follows. -/
theorem Follows.sign {c : Char} {kind : Kind} {offset : Int} (hkind : signKind? c = some kind)
    (hnext : place.next? ⟨kind, String.ofList [c], offset⟩ = some next) (h : Follows next rest) :
    Follows place (c :: rest) := by
  have hsign := mem_signs_of_signKind? hkind
  have hblank := (isWordChar_of_mem_signs hsign).2
  constructor
  · intro hplace
    apply leavesStar_cons.mpr
    constructor
    · rintro rfl
      cases hkind
      rcases hplace with rfl | rfl <;> contradiction
    · rintro rfl
      cases hkind
      rcases hplace with rfl | rfl <;> contradiction
  · rintro rfl
    apply (goesOn_cons hblank).mpr
    have hopen : c ≠ '(' := by
      rintro rfl
      cases hkind
      contradiction
    simpa [signs, signsBehind, hopen] using hsign
  · refine ⟨?_, ?_, h.orderly⟩
    · rintro rfl
      cases hkind
      have hbegins : next = .operand := by
        cases place <;> cases hnext
        rfl
      exact h.operand (Or.inl hbegins)
    · rintro rfl
      cases hkind
      have hvalue : next = .value := by
        cases place <;> cases hnext <;> rfl
      exact h.value hvalue

end

theorem exists_next {token : Token} {place : Place} {rest : List Token}
    (h : (token :: rest).foldlM Place.next? place = some .value) :
    ∃ next, place.next? token = some next ∧ rest.foldlM Place.next? next = some .value := by
  rw [List.foldlM_cons] at h
  exact Option.bind_eq_some_iff.mp h

theorem follows_nil (place : Place) : Follows place [] := by
  constructor
  · intro _ c hc
    contradiction
  · intro _ c hc
    contradiction
  · trivial

/-- What a place tells about the text behind it, for every place in which the tokens of the text may stand, and
whatever may stand behind a value may stand behind the text. -/
theorem follows_of_lexFrom (offset : Nat) (s : List Char) {behind : List Char} (hbehind : Follows .value behind) :
    ∀ place tokens, lexFrom offset s = .ok tokens → tokens.foldlM Place.next? place = some .value →
      Follows place (s ++ behind) := by
  -- the induction is on the steps of the lexer, and the place behind a token is the one before the rest
  fun_induction lexFrom offset s with
  | case1 offset =>
    intro place tokens hlex hplaces
    cases hlex
    cases hplaces
    exact hbehind
  | case2 offset c tail hblank ih =>
    intro place tokens hlex hplaces
    exact (ih place tokens hlex hplaces).blank hblank
  | case3 offset c tail hblank text rest hsplit ih =>
    intro place tokens hlex hplaces
    obtain ⟨later, hlater, rfl⟩ := map_eq_ok hlex
    obtain ⟨next, hnext, hrest⟩ := exists_next hplaces
    have hnumeral := isNumeral_of_splitNumber? hsplit
    have hword : ∀ c ∈ text, isWordChar c := fun c hc => isWordChar_of_isNumeralChar (hnumeral.chars c hc)
    have hplace : place ≠ .value := by
      rintro rfl
      contradiction
    rw [← (splitNumber?_append hsplit).1, List.append_assoc]
    exact (ih next later hlater hrest).word hword hnumeral.ne_nil hplace
  | case4 offset c tail hblank hsplit hstart text ih =>
    intro place tokens hlex hplaces
    obtain ⟨later, hlater, rfl⟩ := map_eq_ok hlex
    obtain ⟨next, hnext, hrest⟩ := exists_next hplaces
    have hword : ∀ c ∈ text, isWordChar c := by
      refine List.forall_mem_cons.mpr ⟨?_, ?_⟩
      · exact isWordChar_of_isIdentifierPart (isIdentifierPart_of_isIdentifierStart hstart)
      · exact fun c hc => isWordChar_of_isIdentifierPart (mem_takeWhile hc)
    have hplace : place ≠ .value := by
      rintro rfl
      contradiction
    have hsplit : c :: tail = text ++ tail.dropWhile isIdentifierPart := by
      rw [List.cons_append, List.takeWhile_append_dropWhile]
    rw [hsplit, List.append_assoc]
    exact (ih next later hlater hrest).word hword (List.cons_ne_nil _ _) hplace
  | case5 offset c tail hblank hsplit hstart kind hkind ih =>
    intro place tokens hlex hplaces
    obtain ⟨later, hlater, rfl⟩ := map_eq_ok hlex
    obtain ⟨next, hnext, hrest⟩ := exists_next hplaces
    exact (ih next later hlater hrest).sign hkind hnext
  | case6 =>
    intro place tokens hlex _
    contradiction

/-- Infix texts are orderly. -/
theorem isOrderly_of_lex {text : String} {phrase : Infix .sum} (h : lex text = .ok phrase.tokens) :
    IsOrderly text.toList := by
  have hfollows := follows_of_lexFrom 0 text.toList (follows_nil .value) .operand phrase.tokens h phrase.inPlace_tokens
  rw [List.append_nil] at hfollows
  exact hfollows.orderly

end SciCalc.Token
