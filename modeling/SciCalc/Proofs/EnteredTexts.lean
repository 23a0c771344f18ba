import SciCalc.Proofs.Decompositions
import SciCalc.Proofs.LikeTokens
import SciCalc.Proofs.Respellings

/-!
# Entered texts

An ASCII text may be entered with tabs, line ends and other control characters for its blanks. They become spaces or
vanish, and in front of the text no blanks are left; an infix text keeps its tokens but for their places.
-/

namespace SciCalc

namespace Token

theorem IsAlike.refl (token : Token) : token.IsAlike token := ⟨rfl, fun _ => rfl, rfl⟩

/-- A token may stand where another one like it may, and the same stands behind it. -/
theorem IsAlike.next? {token token' : Token} (h : token.IsAlike token') (place : Place) :
    place.next? token' = place.next? token := by
  obtain ⟨hkind, htext, hlower⟩ := h
  have hfunction : Tables.standard.function? token'.text = Tables.standard.function? token.text := by
    simp only [Tables.function?, hlower]
  unfold Place.next?
  rw [hkind, hfunction]
  by_cases hidentifier : token.kind = .identifier
  · rw [hidentifier]
    cases place <;> rfl
  · rw [htext hidentifier]

theorem foldlM_next?_alike {tokens tokens' : List Token} (h : List.Forall₂ IsAlike tokens tokens') (place : Place) :
    tokens'.foldlM Place.next? place = tokens.foldlM Place.next? place := by
  induction h generalizing place with
  | nil => rfl
  | cons htoken hrest ih =>
    rw [List.foldlM_cons, List.foldlM_cons, htoken.next?]
    exact congrArg _ (funext ih)

/-- Blanks in front of a text yield no tokens. -/
theorem Spells.blanks {gap text : List Char} {tokens : List Token} {offset : Nat} (hgap : ∀ c ∈ gap, Text.isBlank c)
    (h : Spells (offset + gap.length) text tokens) : Spells offset (gap ++ text) tokens := by
  intro rest hrest
  rw [List.append_assoc, lexFrom_blanks hgap, h rest hrest, List.length_append, Nat.add_assoc]

end Token

namespace Spelling

open Text Token

/-- The text as it is left of blanks in front of it and of control characters. -/
def entered (s : List Char) : List Char := (s.flatMap visible).dropWhile isBlank

theorem visible_ascii {c : Char} (h : c.toNat < 0x80) : ∀ b ∈ visible c, IsPrintableAscii b := by
  have hcodes : ∀ code < 0x80, ∀ b ∈ (visible (Char.ofNat code)).map Char.toNat, 0x20 ≤ b ∧ b < 0x7F := by
    decide +kernel
  have hchar := hcodes c.toNat h
  rw [Char.ofNat_toNat] at hchar
  exact fun b hb => hchar b.toNat (List.mem_map_of_mem hb)

theorem visible_printable {c : Char} (h : IsPrintableAscii c) : visible c = [c] := (standsFor_self (Or.inl h)).1

theorem flatMap_visible_printable {s : List Char} (h : ∀ c ∈ s, IsPrintableAscii c) : s.flatMap visible = s := by
  induction s with
  | nil => rfl
  | cons c rest ih =>
    obtain ⟨hc, hrest⟩ := List.forall_mem_cons.mp h
    rw [List.flatMap_cons, visible_printable hc, ih hrest, List.singleton_append]

/-- What is left of a blank are blanks. -/
theorem visible_blank {c : Char} (h : isBlank c = true) : ∀ b ∈ visible c, isBlank b := by
  unfold visible
  split
  · simp [isBlank, inRanges, blankRanges]
  · split
    · simp
    · simp [h]

theorem isPrintableAscii_of_isWordChar {c : Char} (h : Token.isWordChar c = true) : IsPrintableAscii c := by
  rcases Bool.or_eq_true_iff.mp h with h | h
  · exact isPrintableAscii_of_isNumeralChar h
  · exact isPrintableAscii_of_isIdentifierPart h

theorem isPrintableAscii_of_mem_signs {c : Char} (h : c ∈ signs) : IsPrintableAscii c := by
  have hcodes : ∀ code ∈ signs.map Char.toNat, 0x20 ≤ code ∧ code < 0x7F := by decide
  exact hcodes c.toNat (List.mem_map_of_mem h)

/-- What was taken from the front are blanks. -/
theorem entered_append (s : List Char) : ∃ gap, (∀ c ∈ gap, isBlank c) ∧ s.flatMap visible = gap ++ entered s :=
  ⟨(s.flatMap visible).takeWhile isBlank, fun _ hc => mem_takeWhile hc, List.takeWhile_append_dropWhile.symm⟩

theorem spells_flatMap_visible {s : List Char} {tokens : List Token}
    (h : ∀ start, ∃ words, List.Forall₂ IsAlike tokens words ∧ Spells start (entered s) words) (start : Nat) :
    ∃ words, List.Forall₂ IsAlike tokens words ∧ Spells start (s.flatMap visible) words := by
  obtain ⟨gap, hgap, hs⟩ := entered_append s
  obtain ⟨words, halike, hwords⟩ := h (start + gap.length)
  rw [hs]
  exact ⟨words, halike, hwords.blanks hgap⟩

/-- A token in front of a text. -/
theorem entered_token {text rest : List Char} (hne : text ≠ [])
    (hascii : ∀ c ∈ text, IsPrintableAscii c ∧ isBlank c = false) :
    entered (text ++ rest) = text ++ rest.flatMap visible := by
  obtain ⟨c, tail, rfl⟩ := List.exists_cons_of_ne_nil hne
  have hblank := (hascii c List.mem_cons_self).2
  rw [entered, List.flatMap_append, flatMap_visible_printable fun c hc => (hascii c hc).1, List.cons_append,
    List.dropWhile_cons_of_neg (Bool.eq_false_iff.mp hblank)]

theorem entered_blank {c : Char} (hc : isBlank c = true) (rest : List Char) : entered (c :: rest) = entered rest := by
  rw [entered, List.flatMap_cons, List.dropWhile_append_of_pos (visible_blank hc), entered]

/-- Tokens in place are found again in what is entered of a text, each but for its place. No two words come together,
for in an infix text there is a sign between them. -/
theorem spells_entered (offset : Nat) (s : List Char) : ∀ place tokens, lexFrom offset s = .ok tokens →
    tokens.foldlM Place.next? place = some .value →
    (¬place.Begins → Stops (s.flatMap visible)) ∧
    ∀ start, ∃ words, List.Forall₂ IsAlike tokens words ∧ Spells start (entered s) words := by
  fun_induction lexFrom offset s with
  | case1 offset =>
    intro place tokens hlex _
    cases hlex
    exact ⟨fun _ => stops_nil, fun start => ⟨[], .nil, spells_nil start⟩⟩
  | case2 offset c tail hblank ih =>
    intro place tokens hlex hplaces
    obtain ⟨hstops, hspells⟩ := ih place tokens hlex hplaces
    rw [entered_blank hblank]
    refine ⟨?_, hspells⟩
    intro hplace
    rw [List.flatMap_cons]
    cases hvisible : visible c with
    | nil => exact hstops hplace
    | cons b more =>
      have hb := visible_blank hblank b (by rw [hvisible]; exact List.mem_cons_self)
      exact stops_cons (isWordChar_of_isBlank hb) _
  | case3 offset c tail hblank text rest hsplit ih =>
    intro place tokens hlex hplaces
    obtain ⟨later, hlater, rfl⟩ := map_eq_ok hlex
    obtain ⟨next, hnext, hrest⟩ := exists_next hplaces
    have hnumeral := isNumeral_of_splitNumber? hsplit
    have hword : ∀ c ∈ text, Token.isWordChar c := fun c hc => isWordChar_of_isNumeralChar (hnumeral.chars c hc)
    have hbegins : place.Begins := by
      cases place <;> simp [Place.next?, Place.Begins] at hnext ⊢
    obtain rfl : Place.value = next := by
      rw [hbegins.number] at hnext
      exact Option.some.inj hnext
    obtain ⟨hstops, hspells⟩ := ih .value later hlater hrest
    refine ⟨fun hplace => absurd hbegins hplace, ?_⟩
    intro start
    obtain ⟨words, halike, hwords⟩ := spells_flatMap_visible hspells (start + text.length)
    rw [← (splitNumber?_append hsplit).1, entered_token hnumeral.ne_nil fun c hc =>
      ⟨isPrintableAscii_of_isWordChar (hword c hc), isBlank_of_isWordChar (hword c hc)⟩]
    refine ⟨⟨.number, String.ofList text, start⟩ :: words, .cons ⟨rfl, fun _ => rfl, rfl⟩ halike, ?_⟩
    exact (spells_numeral hnumeral start).join (hstops (by simp [Place.Begins])) hwords
  | case4 offset c tail hblank hsplit hstart text ih =>
    intro place tokens hlex hplaces
    obtain ⟨later, hlater, rfl⟩ := map_eq_ok hlex
    obtain ⟨next, hnext, hrest⟩ := exists_next hplaces
    have htail : ∀ c ∈ tail.takeWhile isIdentifierPart, isIdentifierPart c := fun c hc => mem_takeWhile hc
    have hword : ∀ c ∈ text, Token.isWordChar c := by
      refine List.forall_mem_cons.mpr ⟨?_, fun c hc => isWordChar_of_isIdentifierPart (htail c hc)⟩
      exact isWordChar_of_isIdentifierPart (isIdentifierPart_of_isIdentifierStart hstart)
    have hbegins : place.Begins := by
      cases place <;> simp [Place.next?, Place.Begins] at hnext ⊢
    have hnot : ¬next.Begins := by
      rw [hbegins.identifier] at hnext
      obtain rfl := Option.some.inj hnext
      split <;> simp [Place.Begins]
    obtain ⟨hstops, hspells⟩ := ih next later hlater hrest
    refine ⟨fun hplace => absurd hbegins hplace, ?_⟩
    intro start
    obtain ⟨words, halike, hwords⟩ := spells_flatMap_visible hspells (start + text.length)
    have happend : c :: tail = text ++ tail.dropWhile isIdentifierPart := by
      rw [List.cons_append, List.takeWhile_append_dropWhile]
    rw [happend, entered_token (List.cons_ne_nil _ _) fun c hc =>
      ⟨isPrintableAscii_of_isWordChar (hword c hc), isBlank_of_isWordChar (hword c hc)⟩]
    refine ⟨⟨.identifier, String.ofList text, start⟩ :: words, .cons ⟨rfl, fun _ => rfl, rfl⟩ halike, ?_⟩
    exact (spells_name hstart htail start).join (hstops hnot) hwords
  | case5 offset c tail hblank hsplit hstart kind hkind ih =>
    intro place tokens hlex hplaces
    obtain ⟨later, hlater, rfl⟩ := map_eq_ok hlex
    obtain ⟨next, hnext, hrest⟩ := exists_next hplaces
    obtain ⟨-, hspells⟩ := ih next later hlater hrest
    have hsign := mem_signs_of_signKind? hkind
    have hascii := isPrintableAscii_of_mem_signs hsign
    have hentered : entered (c :: tail) = c :: tail.flatMap visible :=
      @entered_token [c] _ (List.cons_ne_nil _ _) (by simpa using ⟨hascii, (isWordChar_of_mem_signs hsign).2⟩)
    constructor
    · intro _
      rw [List.flatMap_cons, visible_printable hascii, List.singleton_append]
      exact stops_cons (isWordChar_of_mem_signs hsign).1 _
    · intro start
      obtain ⟨words, halike, hwords⟩ := spells_flatMap_visible hspells (start + 1)
      rw [hentered]
      exact ⟨⟨kind, String.ofList [c], start⟩ :: words, .cons ⟨rfl, fun _ => rfl, rfl⟩ halike,
        hwords.sign hkind rfl⟩
  | case6 =>
    intro place tokens hlex _
    contradiction

/-! ### Plain spellings -/

/-- The plain spelling looks at a text only when control characters and superscripts are gone. -/
theorem plain_congr {s s' : List Char} (h : powers false (s.flatMap visible) = powers false (s'.flatMap visible)) :
    plain s = plain s' := by
  unfold plain
  rw [h]

/-- No superscripts are found among printable ASCII characters. -/
theorem powers_append {front : List Char} (hfront : ∀ c ∈ front, IsPrintableAscii c) (rest : List Char) :
    powers false (front ++ rest) = front ++ powers false rest := by
  induction front with
  | nil => rfl
  | cons c tail ih =>
    obtain ⟨hc, htail⟩ := List.forall_mem_cons.mp hfront
    obtain ⟨-, hdigit, hsign, -⟩ := standsFor_self (Or.inl hc)
    rw [List.cons_append, powers, hdigit, hsign, ih htail]
    rfl

theorem powers_printable {s : List Char} (h : ∀ c ∈ s, IsPrintableAscii c) : powers false (s.flatMap visible) = s := by
  have hpowers := powers_append h []
  rw [List.append_nil, powers, List.append_nil] at hpowers
  rw [flatMap_visible_printable h, hpowers]

section

variable {text : String} {phrase : Infix .operand}

/-- What stands behind a value may be a caret with an orderly text behind it. -/
theorem follows_caret {exponent : List Char} (h : IsOrderly exponent) : Follows .value ('^' :: exponent) := by
  constructor
  · intro hplace
    simp [Place.Begins] at hplace
  · intro _
    exact (goesOn_cons (by decide)).mpr (by decide)
  · exact ⟨by simp, by simp, h⟩

/-- The tokens of an operand are found again where it is entered. -/
theorem spells_entered_operand (hlex : lex text = .ok phrase.tokens) :
    ∃ words, List.Forall₂ IsAlike phrase.tokens words ∧ Spells 0 (entered text.toList) words := by
  have hplaces := phrase.foldlM_next?_tokens .operand (Or.inl rfl)
  exact (spells_entered 0 text.toList .operand phrase.tokens hlex hplaces).2 0

/-- A power of an operand is spelled as such, with whatever signs its exponent was written. -/
theorem plain_power_of (hascii : ∀ c ∈ text.toList, c.toNat < 0x80) (hlex : lex text = .ok phrase.tokens)
    {exponent written : List Char} (hwritten : powers false (written.flatMap visible) = '^' :: exponent)
    (hexponent : ∀ c ∈ exponent, IsPrintableAscii c ∧ isBlank c = false) (horderly : IsOrderly exponent) :
    plain (text.toList ++ written) = entered text.toList ++ '^' :: exponent := by
  obtain ⟨gap, hgap, htext⟩ := entered_append text.toList
  have hvisible : ∀ c ∈ gap ++ entered text.toList, IsPrintableAscii c := by
    rw [← htext]
    intro c hc
    obtain ⟨b, hb, hc⟩ := List.mem_flatMap.mp hc
    exact visible_ascii (hascii b hb) c hc
  have hpower : ∀ c ∈ '^' :: exponent, IsPrintableAscii c ∧ isBlank c = false :=
    List.forall_mem_cons.mpr ⟨⟨⟨by decide, by decide⟩, by decide⟩, hexponent⟩
  have hall : ∀ c ∈ gap ++ (entered text.toList ++ '^' :: exponent), IsPrintableAscii c := by
    rw [← List.append_assoc]
    intro c hc
    exact (List.mem_append.mp hc).elim (hvisible c) fun hc => (hpower c hc).1
  have hpowers : powers false ((text.toList ++ written).flatMap visible) =
      gap ++ (entered text.toList ++ '^' :: exponent) := by
    rw [List.flatMap_append, htext, powers_append hvisible, hwritten, List.append_assoc]
  have hfollows : Follows .operand (entered text.toList ++ '^' :: exponent) := by
    obtain ⟨words, halike, hwords⟩ := spells_entered_operand hlex
    refine follows_of_lexFrom 0 _ (follows_caret horderly) .operand words (lexFrom_of_spells hwords) ?_
    rw [foldlM_next?_alike halike]
    exact phrase.foldlM_next?_tokens .operand (Or.inl rfl)
  have horderlyAll : IsOrderly (gap ++ (entered text.toList ++ '^' :: exponent)) :=
    isOrderly_append (fun c hc => not_mem_signs_of_isBlank (hgap c hc)) hfollows.orderly
  have hfirst : ∀ c ∈ (entered text.toList ++ '^' :: exponent).head?, isBlank c = false := by
    intro c hc
    cases hentered : entered text.toList with
    | nil =>
      rw [hentered] at hc
      exact (hpower c (List.mem_of_mem_head? hc)).2
    | cons b more =>
      rw [hentered] at hc
      obtain rfl : b = c := Option.some.inj hc
      have hhead := List.head?_dropWhile_not isBlank (text.toList.flatMap visible)
      rw [← entered, hentered] at hhead
      exact hhead
  have hlast : ∀ c ∈ (entered text.toList ++ '^' :: exponent).getLast?, isBlank c = false := by
    rw [List.getLast?_append_cons]
    exact fun c hc => (hpower c (List.mem_of_getLast? hc)).2
  calc
    plain (text.toList ++ written) = plain (gap ++ (entered text.toList ++ '^' :: exponent)) :=
      plain_congr (hpowers.trans (powers_printable hall).symm)
    _ = strip isBlank (gap ++ (entered text.toList ++ '^' :: exponent)) := plain_of_isOrderly hall horderlyAll
    _ = entered text.toList ++ '^' :: exponent := strip_run hgap hfirst hlast

end

end Spelling

end SciCalc
