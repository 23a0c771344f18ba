import SciCalc.Function
import SciCalc.Operator
import SciCalc.Proofs.Attempt
import SciCalc.Proofs.Numerals

/-!
# Steps of the lexer

What the lexer splits off a text that begins with a sign, a numeral or a name. A numeral or a name ends where
no character of either follows.
-/

namespace SciCalc.Token

/-- The characters that a numeral or a name before them would take in. -/
def isWordChar (c : Char) : Bool := isNumeralChar c || isIdentifierPart c

theorem isWordChar_of_isNumeralChar {c : Char} (h : isNumeralChar c = true) : isWordChar c = true := by
  rw [isWordChar, h, Bool.true_or]

theorem isWordChar_of_isIdentifierPart {c : Char} (h : isIdentifierPart c = true) : isWordChar c = true := by
  rw [isWordChar, h, Bool.or_true]

/-- A text that does not go on with a numeral or a name before it. -/
def Stops (rest : List Char) : Prop := ∀ c ∈ rest.head?, isWordChar c = false

theorem stops_nil : Stops [] := by simp [Stops]

theorem stops_cons {c : Char} (h : isWordChar c = false) (rest : List Char) : Stops (c :: rest) := by
  simp [Stops, h]

theorem Stops.isNumeralChar {rest : List Char} (h : Stops rest) :
    ∀ c ∈ rest.head?, isNumeralChar c = false :=
  fun c hc => (Bool.or_eq_false_iff.mp (h c hc)).1

theorem Stops.isIdentifierPart {rest : List Char} (h : Stops rest) :
    ∀ c ∈ rest.head?, isIdentifierPart c = false :=
  fun c hc => (Bool.or_eq_false_iff.mp (h c hc)).2

theorem Stops.isDigit {rest : List Char} (h : Stops rest) : ∀ c ∈ rest.head?, c.isDigit = false :=
  fun c hc => (Bool.or_eq_false_iff.mp (h.isNumeralChar c hc)).1

theorem splitNumber?_eq_none {c : Char} (hc : isNumeralChar c = false) (rest : List Char) :
    splitNumber? (c :: rest) = none := by
  obtain ⟨hdigit, hpoint⟩ := Bool.or_eq_false_iff.mp hc
  have hne : c ≠ '.' := by simpa using hpoint
  simp [splitNumber?, hdigit, hne]

/-- The rest goes on with a digit, or behind a whole number with a point and a digit. -/
def Continues (text rest : List Char) : Prop :=
  (∃ digit tail, rest = digit :: tail ∧ digit.isDigit) ∨
    (∀ c ∈ text, c.isDigit) ∧ ∃ digit tail, rest = '.' :: digit :: tail ∧ digit.isDigit

theorem head_of_not_continues {text rest : List Char} (h : ¬Continues text rest) : ∀ c ∈ rest.head?, c.isDigit = false := by
  intro c hc
  obtain ⟨tail, rfl⟩ := List.head?_eq_some_iff.mp hc
  exact Bool.eq_false_iff.mpr fun hdigit => h (Or.inl ⟨c, tail, rfl, hdigit⟩)

/-- A number is split off as a whole where the text does not go on with it. -/
theorem splitNumber?_of_not_continues {text rest : List Char} (h : IsNumeral text) (hends : ¬Continues text rest) :
    splitNumber? (text ++ rest) = some (text, rest) := by
  have hdigit := head_of_not_continues hends
  cases h with
  | whole digits hd hne =>
    have htake := takeWhile_run hd hdigit
    have hdrop := dropWhile_run hd hdigit
    cases rest with
    | nil =>
      rw [List.append_nil] at htake hdrop ⊢
      simp [splitNumber?, htake, hdrop, hne]
    | cons c tail =>
      by_cases hpoint : c = '.'
      · subst hpoint
        have hfraction : tail.takeWhile Char.isDigit = [] := by
          cases tail with
          | nil => rfl
          | cons digit more =>
            refine List.takeWhile_cons_of_neg fun hdigit => ?_
            exact hends (Or.inr ⟨hd, digit, more, rfl, hdigit⟩)
        simp [splitNumber?, htake, hdrop, hne, hfraction]
      · simp [splitNumber?, htake, hdrop, hne, hpoint]
  | pointed whole fraction hw hf hne =>
    have hpoint : ∀ c ∈ ('.' :: (fraction ++ rest)).head?, c.isDigit = false := by simp
    have htake := takeWhile_run hw hpoint
    have hdrop := dropWhile_run hw hpoint
    have htakef := takeWhile_run hf hdigit
    have hdropf := dropWhile_run hf hdigit
    simp [splitNumber?, htake, hdrop, htakef, hdropf, hne]

theorem Stops.not_continues {rest : List Char} (h : Stops rest) (text : List Char) : ¬Continues text rest := by
  rintro (⟨digit, tail, rfl, hdigit⟩ | ⟨-, digit, tail, rfl, -⟩)
  · rw [h.isDigit digit rfl] at hdigit
    contradiction
  · exact absurd (h.isNumeralChar '.' rfl) (by decide)

theorem isIdentifierPart_bounds {c : Char} (h : isIdentifierPart c) : 0x2E ≤ c.toNat ∧ c.toNat ≤ 0x7A := by
  unfold isIdentifierPart Char.isAlphanum Char.isAlpha Char.isUpper Char.isLower Char.isDigit at h
  simp only [Bool.or_eq_true, Bool.and_eq_true, decide_eq_true_eq, beq_iff_eq] at h
  rcases h with ((⟨hlow, hhigh⟩ | ⟨hlow, hhigh⟩) | ⟨hlow, hhigh⟩) | hline
  · have h1 : 65 ≤ c.toNat := hlow
    have h2 : c.toNat ≤ 90 := hhigh
    omega
  · have h1 : 97 ≤ c.toNat := hlow
    have h2 : c.toNat ≤ 122 := hhigh
    omega
  · have h1 : 48 ≤ c.toNat := hlow
    have h2 : c.toNat ≤ 57 := hhigh
    omega
  · subst hline
    decide

theorem isBlank_of_isWordChar {c : Char} (h : isWordChar c = true) : Text.isBlank c = false := by
  rcases Bool.or_eq_true_iff.mp h with hnumeral | hpart
  · have hb := isNumeralChar_bounds hnumeral
    exact Text.isBlank_of_bounds hb.1 (by omega)
  · have hb := isIdentifierPart_bounds hpart
    exact Text.isBlank_of_bounds hb.1 hb.2

theorem isWordChar_of_isBlank {c : Char} (h : Text.isBlank c = true) : isWordChar c = false := by
  refine Bool.eq_false_iff.mpr fun hword => ?_
  rw [isBlank_of_isWordChar hword] at h
  contradiction

/-- A blank yields no token. -/
theorem lexFrom_blank {c : Char} (h : Text.isBlank c = true) (rest : List Char) (offset : Nat) :
    lexFrom offset (c :: rest) = lexFrom (offset + 1) rest := by
  rw [lexFrom, if_pos h]

theorem lexFrom_of_splitNumber? {c : Char} {tail text rest : List Char} (hblank : Text.isBlank c = false)
    (hsplit : splitNumber? (c :: tail) = some (text, rest)) (offset : Nat) :
    lexFrom offset (c :: tail) =
      (lexFrom (offset + text.length) rest).map (⟨.number, String.ofList text, offset⟩ :: ·) := by
  rw [lexFrom, if_neg (Bool.eq_false_iff.mp hblank)]
  split
  · rename_i text' rest' hsplit'
    rw [hsplit] at hsplit'
    cases hsplit'
    rfl
  · rename_i hsplit'
    rw [hsplit] at hsplit'
    contradiction

/-- What does not begin with a numeral begins with a name or a sign. -/
theorem lexFrom_of_not_numeral {c : Char} (hblank : Text.isBlank c = false) (hc : isNumeralChar c = false)
    (tail : List Char) (offset : Nat) :
    lexFrom offset (c :: tail) =
      if isIdentifierStart c then
        (lexFrom (offset + (c :: tail.takeWhile isIdentifierPart).length) (tail.dropWhile isIdentifierPart)).map
          (⟨.identifier, String.ofList (c :: tail.takeWhile isIdentifierPart), offset⟩ :: ·)
      else
        match signKind? c with
        | some kind => (lexFrom (offset + 1) tail).map (⟨kind, String.ofList [c], offset⟩ :: ·)
        | none => .error (.unexpectedCharacter offset c) := by
  have hsplit := splitNumber?_eq_none hc tail
  rw [lexFrom, if_neg (Bool.eq_false_iff.mp hblank)]
  split
  · rename_i text' rest' hsplit'
    rw [hsplit] at hsplit'
    contradiction
  · rfl

theorem lexFrom_number {text rest : List Char} (h : IsNumeral text) (hrest : Stops rest) (offset : Nat) :
    lexFrom offset (text ++ rest) =
      (lexFrom (offset + text.length) rest).map (⟨.number, String.ofList text, offset⟩ :: ·) := by
  have hsplit := splitNumber?_of_not_continues h (hrest.not_continues text)
  match text, h.ne_nil with
  | c :: tail, _ =>
    have hblank : Text.isBlank c = false :=
      isBlank_of_isWordChar (isWordChar_of_isNumeralChar (h.chars c List.mem_cons_self))
    exact lexFrom_of_splitNumber? hblank hsplit offset

theorem isNumeralChar_of_isIdentifierStart {c : Char} (h : isIdentifierStart c = true) :
    isNumeralChar c = false := by
  have hlow : 0x41 ≤ c.toNat := by
    unfold isIdentifierStart Char.isAlpha Char.isUpper Char.isLower at h
    simp only [Bool.or_eq_true, Bool.and_eq_true, decide_eq_true_eq, beq_iff_eq] at h
    rcases h with (⟨hlow, _⟩ | ⟨hlow, _⟩) | hline
    · exact hlow
    · have h1 : 97 ≤ c.toNat := hlow
      omega
    · subst hline
      decide
  cases hnumeral : isNumeralChar c with
  | false => rfl
  | true =>
    have hb := isNumeralChar_bounds hnumeral
    omega

theorem isIdentifierPart_of_isIdentifierStart {c : Char} (h : isIdentifierStart c = true) :
    isIdentifierPart c = true := by
  rcases Bool.or_eq_true_iff.mp h with h | h
  · have halnum : c.isAlphanum = true := Bool.or_eq_true_iff.mpr (Or.inl h)
    simp [isIdentifierPart, halnum]
  · simp [isIdentifierPart, h]

/-- A name is taken as far as letters, digits and low lines go. -/
theorem lexFrom_identifier {c : Char} {tail rest : List Char} (hstart : isIdentifierStart c = true)
    (htail : ∀ c ∈ tail, isIdentifierPart c) (hrest : ∀ c ∈ rest.head?, isIdentifierPart c = false) (offset : Nat) :
    lexFrom offset (c :: tail ++ rest) =
      (lexFrom (offset + (c :: tail).length) rest).map
        (⟨.identifier, String.ofList (c :: tail), offset⟩ :: ·) := by
  have hblank : Text.isBlank c = false :=
    isBlank_of_isWordChar (isWordChar_of_isIdentifierPart (isIdentifierPart_of_isIdentifierStart hstart))
  rw [List.cons_append, lexFrom_of_not_numeral hblank (isNumeralChar_of_isIdentifierStart hstart),
    if_pos hstart, takeWhile_run htail hrest, dropWhile_run htail hrest]

theorem lexFrom_name {c : Char} {tail rest : List Char} (hstart : isIdentifierStart c = true)
    (htail : ∀ c ∈ tail, isIdentifierPart c) (hrest : Stops rest) (offset : Nat) :
    lexFrom offset (c :: tail ++ rest) =
      (lexFrom (offset + (c :: tail).length) rest).map
        (⟨.identifier, String.ofList (c :: tail), offset⟩ :: ·) :=
  lexFrom_identifier hstart htail hrest.isIdentifierPart offset

/-- The characters of tokens that are signs. -/
def signs : List Char := ['+', '-', '*', '/', '^', '%', '(', ')', ',']

theorem mem_signs_of_signKind? {c : Char} {kind : Kind} (h : signKind? c = some kind) : c ∈ signs := by
  unfold signKind? at h
  split at h
  · rename_i hop
    have hmem : c ∈ ['+', '-', '*', '/', '^', '%'] := List.contains_iff_mem.mp hop
    exact List.mem_append_left ['(', ')', ','] hmem
  split at h
  · simp [signs, *]
  split at h
  · simp [signs, *]
  split at h
  · simp [signs, *]
  · contradiction

theorem isWordChar_of_mem_signs {c : Char} (h : c ∈ signs) : isWordChar c = false ∧ Text.isBlank c = false := by
  have hall : (signs.all fun c => !isWordChar c && !Text.isBlank c) = true := rfl
  simpa using List.all_eq_true.mp hall c h

theorem lexFrom_sign {c : Char} {kind : Kind} {text : String} (hkind : signKind? c = some kind)
    (htext : String.ofList [c] = text) (rest : List Char) (offset : Nat) :
    lexFrom offset (c :: rest) = (lexFrom (offset + 1) rest).map (⟨kind, text, offset⟩ :: ·) := by
  obtain ⟨hword, hblank⟩ := isWordChar_of_mem_signs (mem_signs_of_signKind? hkind)
  obtain ⟨hnumeral, hpart⟩ := Bool.or_eq_false_iff.mp hword
  have hstart : ¬isIdentifierStart c = true := by
    intro hstart
    rw [isIdentifierPart_of_isIdentifierStart hstart] at hpart
    contradiction
  rw [lexFrom_of_not_numeral hblank hnumeral, if_neg hstart, hkind, htext]

/-- Where a word before it would end, the text is split into these tokens. -/
def Spells (offset : Nat) (text : List Char) (tokens : List Token) : Prop :=
  ∀ rest, Stops rest →
    lexFrom offset (text ++ rest) = (lexFrom (offset + text.length) rest).map (tokens ++ ·)

section

variable {offset : Nat} {text text' : List Char} {tokens tokens' : List Token}

theorem spells_nil (offset : Nat) : Spells offset [] [] := by
  intro rest _
  show lexFrom offset rest = (lexFrom offset rest).map id
  cases lexFrom offset rest <;> rfl

theorem spells_numeral (h : IsNumeral text) (offset : Nat) :
    Spells offset text [⟨.number, String.ofList text, offset⟩] :=
  fun _ hrest => lexFrom_number h hrest offset

theorem spells_name {c : Char} {tail : List Char} (hstart : isIdentifierStart c = true)
    (htail : ∀ c ∈ tail, isIdentifierPart c) (offset : Nat) :
    Spells offset (c :: tail) [⟨.identifier, String.ofList (c :: tail), offset⟩] :=
  fun _ hrest => lexFrom_name hstart htail hrest offset

theorem spells_functionName (f : Function) (offset : Nat) :
    Spells offset f.name.toList [⟨.identifier, f.name, offset⟩] := by
  have hname : ∃ c tail, f.name.toList = c :: tail ∧ isIdentifierStart c = true ∧
      ∀ c ∈ tail, isIdentifierPart c = true := by
    rcases f with f | _
    · cases f <;> exact ⟨_, _, rfl, rfl, List.all_eq_true.mp rfl⟩
    · exact ⟨_, _, rfl, rfl, List.all_eq_true.mp rfl⟩
  obtain ⟨c, tail, hlist, hstart, htail⟩ := hname
  have hspells := spells_name hstart htail offset
  rwa [← hlist, String.ofList_toList] at hspells

/-- A sign is a token wherever it stands. -/
theorem Spells.sign {c : Char} {kind : Kind} {symbol : String} (h : Spells (offset + 1) text tokens)
    (hkind : signKind? c = some kind) (hsymbol : String.ofList [c] = symbol) :
    Spells offset (c :: text) (⟨kind, symbol, offset⟩ :: tokens) := by
  intro rest hrest
  have hlength : offset + (c :: text).length = offset + 1 + text.length := by
    rw [List.length_cons]
    omega
  rw [List.cons_append, lexFrom_sign hkind hsymbol, h rest hrest, map_map, hlength]
  rfl

theorem Spells.leftParen (h : Spells (offset + 1) text tokens) :
    Spells offset ('(' :: text) (⟨.leftParen, "(", offset⟩ :: tokens) := h.sign rfl rfl

theorem Spells.comma (h : Spells (offset + 1) text tokens) :
    Spells offset (',' :: text) (⟨.comma, ",", offset⟩ :: tokens) := h.sign rfl rfl

theorem Spells.minus (h : Spells (offset + 1) text tokens) :
    Spells offset ('-' :: text) (⟨.operator, "-", offset⟩ :: tokens) := h.sign rfl rfl

theorem Spells.percent (h : Spells (offset + 1) text tokens) :
    Spells offset ('%' :: text) (⟨.operator, "%", offset⟩ :: tokens) := h.sign rfl rfl

theorem spells_rightParen (offset : Nat) : Spells offset [')'] [⟨.rightParen, ")", offset⟩] :=
  (spells_nil (offset + 1)).sign rfl rfl

/-- A text that does not go on with the word before it. -/
theorem Spells.join (h : Spells offset text tokens) (hstops : Stops text')
    (h' : Spells (offset + text.length) text' tokens') : Spells offset (text ++ text') (tokens ++ tokens') := by
  intro rest hrest
  have hlength : offset + (text ++ text').length = offset + text.length + text'.length := by
    rw [List.length_append]
    omega
  have hbehind : Stops (text' ++ rest) := by
    cases text' with
    | nil => exact hrest
    | cons c tail => exact stops_cons (hstops c rfl) (tail ++ rest)
  rw [List.append_assoc, h _ hbehind, h' rest hrest, map_map, hlength]
  simp only [List.append_assoc]

/-- A sign ends the word that stands before it. -/
theorem Spells.append {c : Char} (h : Spells offset text tokens) (hc : isWordChar c = false)
    (h' : Spells (offset + text.length) (c :: text') tokens') :
    Spells offset (text ++ c :: text') (tokens ++ tokens') := h.join (stops_cons hc text') h'

theorem lexFrom_of_spells (h : Spells offset text tokens) : lexFrom offset text = .ok tokens := by
  have hlex := h [] stops_nil
  rw [List.append_nil, lexFrom] at hlex
  rw [hlex]
  exact congrArg Except.ok (List.append_nil tokens)

theorem lex_of_spells {text : String} (h : Spells 0 text.toList tokens) : lex text = .ok tokens := lexFrom_of_spells h

end

/-- A binary operator is written with one sign. -/
theorem exists_sign_binary (op : BinaryOperator) : ∃ c, (Operator.binary op).symbol.toList = [c] ∧
    isWordChar c = false ∧ signKind? c = some .operator ∧ String.ofList [c] = (Operator.binary op).symbol := by
  cases op <;> exact ⟨_, rfl, rfl, rfl, rfl⟩

end SciCalc.Token
