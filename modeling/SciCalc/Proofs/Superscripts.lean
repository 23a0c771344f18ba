import SciCalc.Calculator
import SciCalc.Proofs.EnteredTexts
import SciCalc.Proofs.PhraseValues

/-!
# Superscripts

An operand may be raised to digits that are written as superscripts, with a superscript sign in front of them. This is
the power with these digits between parentheses, but for the plus sign: no operand may begin with a plus, so it is taken
for the sign of a sum, and the power lacks its exponent.
-/

namespace SciCalc

namespace Postfix.Parser

/-- Where an operand is expected a plus is a binary operator all the same. -/
theorem step_plus (output : List Postfix) {stack : List Entry} (frames : List Frame) (previous : Option Token.Kind)
    {pending : List (Operator × Int)}
    (hpending : ∀ entry ∈ pending, entry.1.rule.precedes (Operator.binary .add).rule = true)
    (hfree : Free .sum stack) (offset : Int) :
    step .standard ⟨output, waiting pending ++ stack, frames, true, previous, false⟩ ⟨.operator, "+", offset⟩ =
      .ok ⟨emit pending output, .operator (Operator.binary .add).rule offset :: stack, frames, true,
        some .operator, false⟩ := by
  have hop : Operator.binary .add ∈ Infix.Level.sum.operators := by decide
  have hrule : Tables.standard.operator? "+" = some (Operator.binary .add).rule :=
    Tables.operator?_symbol (.binary .add)
  have hminus : (("+" = "-") : Prop) ↔ False := by decide
  have hway := (giveWay_waiting hpending output stack).trans (giveWay_of_free hop _ hfree)
  simp only [step, operator, hminus, decide_false, Bool.false_and, Bool.false_eq_true, if_false, hrule, hway]
  rfl

/-- Behind a plus for an exponent the caret is written at once, before there is any. -/
theorem ofTokens_power_plus (phrase : Infix .operand) {text : String} (htext : Token.IsNumeral text.toList)
    (i j k : Int) :
    ofTokens .standard (phrase.tokens ++ [⟨.operator, "^", i⟩, ⟨.operator, "+", j⟩, ⟨.number, text, k⟩]) =
      .ok (phrase.postorder ++ [.operator "^", .literal (Decimal.Digits.toFloat false (.ofNumeral text.toList)),
        .operator "+"]) := by
  obtain ⟨pending, written, kind, hpending, -, hrun, hemit⟩ := phrase.isRead [] [] [] none trivial
  obtain rfl : pending = [] := by
    apply List.eq_nil_iff_forall_not_mem.mpr
    intro entry hentry
    exact List.not_mem_nil (hpending entry hentry)
  rw [emit_nil, List.append_nil] at hemit
  have hcaret : step .standard ⟨written, waiting [] ++ [], [], false, some kind, false⟩ ⟨.operator, "^", i⟩ =
      .ok ⟨written, [.operator (Operator.binary .pow).rule i], [], true, some .operator, false⟩ :=
    @step_binary written [] [] (some kind) .power .pow [] (by simp) (by decide) trivial i
  have hprecedes : (Operator.binary .pow).rule.precedes (Operator.binary .add).rule = true := by decide
  have hplus : step .standard ⟨written, [.operator (Operator.binary .pow).rule i], [], true, some .operator, false⟩
      ⟨.operator, "+", j⟩ =
      .ok ⟨.operator "^" :: written, [.operator (Operator.binary .add).rule j], [], true, some .operator, false⟩ :=
    @step_plus written [] [] (some .operator) [(.binary .pow, i)] (by simpa using hprecedes) trivial j
  unfold run at hrun
  rw [ofTokens, run, foldlM_append_ok hrun, List.foldlM_cons, hcaret, ok_bind, List.foldlM_cons, hplus, ok_bind,
    List.foldlM_cons, step_number htext, hemit]
  simp [finish, flush, Operator.rule, Operator.symbol]

end Postfix.Parser

namespace Spelling

open Text Token

/-- The superscript that is read as the digit or the sign. -/
def superscript (c : Char) : Char :=
  (((superscriptDigits ++ superscriptSigns).find? (·.2 == c)).map Prod.fst).getD c

/-- The text raised to an exponent in superscripts. -/
def raised (text : String) (exponent : List Char) : String := text ++ String.ofList (exponent.map superscript)

/-- The text raised to an exponent between parentheses. -/
def power (text : String) (exponent : List Char) : String := text ++ String.ofList ('^' :: '(' :: (exponent ++ [')']))

/-! ### Exponents -/

section

variable {sign digits : List Char}

theorem superscript_digit {c : Char} (h : c.isDigit) :
    visible (superscript c) = [superscript c] ∧ superscriptDigits.lookup (superscript c) = some c := by
  have hascii := isPrintableAscii_of_isNumeralChar (isNumeralChar_of_isDigit h)
  exact hascii.of_codes (fun c => c.isDigit → visible (superscript c) = [superscript c] ∧
    superscriptDigits.lookup (superscript c) = some c) (by decide +kernel) h

/-- Behind the first one the digits are read one by one. -/
theorem powers_true_digits (h : ∀ c ∈ digits, c.isDigit) :
    powers true ((digits.map superscript).flatMap visible) = digits := by
  induction digits with
  | nil => rfl
  | cons c tail ih =>
    obtain ⟨hc, htail⟩ := List.forall_mem_cons.mp h
    obtain ⟨hvisible, hdigit⟩ := superscript_digit hc
    rw [List.map_cons, List.flatMap_cons, hvisible, List.singleton_append, powers, hdigit, ih htail]
    rfl

/-- A sign is read where a digit stands behind it. -/
theorem powers_sign {form sign : Char} (hdigit : superscriptDigits.lookup form = none)
    (hsign : superscriptSigns.lookup form = some sign) {c : Char} (hc : (superscriptDigits.lookup c).isSome)
    (rest : List Char) : powers false (form :: c :: rest) = '^' :: sign :: powers true (c :: rest) := by
  have hhead : ((c :: rest).head?.map isSuperscriptDigit).getD false = true := hc
  rw [powers, hdigit, hsign]
  simp only [hhead, if_true]

/-- Digits in superscripts, with a sign or without one, are the exponent of a power. -/
theorem powers_superscripts (hsign : sign ∈ [[], ['-'], ['+']]) (hdigits : ∀ c ∈ digits, c.isDigit)
    (hne : digits ≠ []) :
    powers false (((sign ++ digits).map superscript).flatMap visible) = '^' :: (sign ++ digits) := by
  obtain ⟨c, tail, rfl⟩ := List.exists_cons_of_ne_nil hne
  obtain ⟨hc, htail⟩ := List.forall_mem_cons.mp hdigits
  obtain ⟨hvisible, hdigit⟩ := superscript_digit hc
  have hsome : (superscriptDigits.lookup (superscript c)).isSome := by
    rw [hdigit]
    rfl
  have hrun := powers_true_digits hdigits
  rw [List.map_cons, List.flatMap_cons, hvisible, List.singleton_append] at hrun
  rw [List.map_append, List.flatMap_append, List.map_cons, List.flatMap_cons, hvisible, List.singleton_append]
  simp only [List.mem_cons, List.not_mem_nil, or_false] at hsign
  rcases hsign with rfl | rfl | rfl
  · simp only [List.map_nil, List.flatMap_nil, List.nil_append, powers, hdigit, Bool.false_eq_true, if_false]
    rw [powers_true_digits htail]
  · have hminus := @powers_sign '⁻' '-' rfl rfl _ hsome ((tail.map superscript).flatMap visible)
    rw [hrun] at hminus
    exact hminus
  · have hplus := @powers_sign '⁺' '+' rfl rfl _ hsome ((tail.map superscript).flatMap visible)
    rw [hrun] at hplus
    exact hplus

/-- A digit or a sign of an exponent. -/
theorem char_of_exponent (hsign : sign ∈ [[], ['-'], ['+']]) (hdigits : ∀ c ∈ digits, c.isDigit) {c : Char}
    (hc : c ∈ sign ++ digits) : IsPrintableAscii c ∧ isBlank c = false ∧ c ≠ '*' ∧ c ≠ ')' := by
  have hsigns : ∀ sign ∈ [[], ['-'], ['+']], ∀ c ∈ sign, 0x20 ≤ c.toNat ∧ c.toNat < 0x7F ∧ isBlank c = false ∧
      c ≠ '*' ∧ c ≠ ')' := by
    simp [isBlank, inRanges, blankRanges]
  rcases List.mem_append.mp hc with hc | hc
  · obtain ⟨hlow, hhigh, hrest⟩ := hsigns sign hsign c hc
    exact ⟨⟨hlow, hhigh⟩, hrest⟩
  · have hascii := isPrintableAscii_of_isNumeralChar (isNumeralChar_of_isDigit (hdigits c hc))
    have hrest := hascii.of_codes (fun c => c.isDigit → isBlank c = false ∧ c ≠ '*' ∧ c ≠ ')') (by decide) (hdigits c hc)
    exact ⟨hascii, hrest⟩

theorem isOrderly_exponent {exponent rest : List Char} (h : ∀ c ∈ exponent, c ≠ '*' ∧ c ≠ ')') (hrest : IsOrderly rest) :
    IsOrderly (exponent ++ rest) := by
  induction exponent with
  | nil => exact hrest
  | cons c tail ih =>
    obtain ⟨hc, htail⟩ := List.forall_mem_cons.mp h
    exact ⟨fun heq => absurd heq hc.1, fun heq => absurd heq hc.2, ih htail⟩

end

/-! ### Plain spellings -/

section

variable {text : String} {phrase : Infix .operand} {sign digits : List Char}

theorem plain_raised (hascii : ∀ c ∈ text.toList, c.toNat < 0x80) (hlex : lex text = .ok phrase.tokens)
    (hsign : sign ∈ [[], ['-'], ['+']]) (hdigits : ∀ c ∈ digits, c.isDigit) (hne : digits ≠ []) :
    plain (raised text (sign ++ digits)).toList = entered text.toList ++ '^' :: (sign ++ digits) := by
  have hchars := @char_of_exponent sign digits hsign hdigits
  have horderly := @isOrderly_exponent (sign ++ digits) [] (fun c hc => (hchars hc).2.2) trivial
  rw [List.append_nil] at horderly
  rw [raised, String.toList_append, String.toList_ofList]
  exact plain_power_of hascii hlex (powers_superscripts hsign hdigits hne)
    (fun c hc => ⟨(hchars hc).1, (hchars hc).2.1⟩) horderly

theorem plain_power (hascii : ∀ c ∈ text.toList, c.toNat < 0x80) (hlex : lex text = .ok phrase.tokens)
    (hsign : sign ∈ [[], ['-'], ['+']]) (hdigits : ∀ c ∈ digits, c.isDigit) :
    plain (power text (sign ++ digits)).toList = entered text.toList ++ '^' :: '(' :: (sign ++ digits ++ [')']) := by
  have hchars := @char_of_exponent sign digits hsign hdigits
  have hclose : IsPrintableAscii ')' ∧ isBlank ')' = false := ⟨⟨by decide, by decide⟩, by decide⟩
  have hopen : IsPrintableAscii '(' ∧ isBlank '(' = false := ⟨⟨by decide, by decide⟩, by decide⟩
  have hall : ∀ c ∈ '(' :: (sign ++ digits ++ [')']), IsPrintableAscii c ∧ isBlank c = false := by
    refine List.forall_mem_cons.mpr ⟨hopen, ?_⟩
    intro c hc
    rcases List.mem_append.mp hc with hc | hc
    · exact ⟨(hchars hc).1, (hchars hc).2.1⟩
    · rw [List.mem_singleton.mp hc]
      exact hclose
  have horderly : IsOrderly ('(' :: (sign ++ digits ++ [')'])) := by
    have hbehind : IsOrderly [')'] := ⟨by simp, fun _ => (follows_nil .value).value rfl, trivial⟩
    exact ⟨by simp, by simp, isOrderly_exponent (fun c hc => (hchars hc).2.2) hbehind⟩
  have hwritten : powers false (('^' :: '(' :: (sign ++ digits ++ [')'])).flatMap visible) =
      '^' :: '(' :: (sign ++ digits ++ [')']) :=
    powers_printable (List.forall_mem_cons.mpr ⟨⟨by decide, by decide⟩, fun c hc => (hall c hc).1⟩)
  rw [power, String.toList_append, String.toList_ofList]
  exact plain_power_of hascii hlex hwritten hall horderly

end

end Spelling

namespace Infix

open Token

/-- Wherever the text stands, its tokens are those of an exponent with the post-order. -/
def IsExponentText (text : List Char) (postorder : List Postfix) : Prop :=
  ∀ offset, ∃ phrase : Infix .signed, phrase.postorder = postorder ∧ Spells offset text phrase.tokens

variable {text : List Char} {postorder : List Postfix}

theorem IsOperandText.exponent (h : IsOperandText text postorder) : IsExponentText text postorder := by
  intro offset
  obtain ⟨phrase, rfl, hspells⟩ := h offset
  exact ⟨phrase.toSigned, rfl, hspells⟩

theorem IsOperandText.negative (h : IsOperandText text postorder) :
    IsExponentText ('-' :: text) (postorder ++ [.operator Operator.negSymbol]) := by
  intro offset
  obtain ⟨phrase, rfl, hspells⟩ := h (offset + 1)
  exact ⟨.minus offset phrase.toSigned, rfl, hspells.minus⟩

end Infix

namespace Expression

open Text Token Postfix.Parser
open Spelling (entered)

section

variable {text : String} {phrase : Infix .operand}

/-- What stands behind a caret is compiled with the tokens of the operand in front of it. -/
theorem compile_entered (hlex : lex text = .ok phrase.tokens) {exponent : List Char} {later : List Token}
    (hlater : lexFrom ((entered text.toList).length + 1) exponent = .ok later) {elements : List Postfix}
    (helements : Postfix.ofTokens .standard
      (phrase.tokens ++ ⟨.operator, "^", (entered text.toList).length⟩ :: later) = .ok elements) :
    compile (String.ofList (entered text.toList ++ '^' :: exponent)) = .ok elements := by
  obtain ⟨words, halike, hwords⟩ := Spelling.spells_entered_operand hlex
  have hlexed : lex (String.ofList (entered text.toList ++ '^' :: exponent)) =
      .ok (words ++ ⟨.operator, "^", (entered text.toList).length⟩ :: later) := by
    rw [lex, String.toList_ofList, hwords _ (stops_cons (by decide) exponent), Nat.zero_add,
      @lexFrom_sign '^' .operator "^" rfl rfl, hlater]
    rfl
  have hlaterAlike : List.Forall₂ Token.IsAlike (⟨.operator, "^", (entered text.toList).length⟩ :: later)
      (⟨.operator, "^", (entered text.toList).length⟩ :: later) :=
    List.forall₂_same.mpr fun token _ => .refl token
  have hsame := @Postfix.ofTokens_alike .standard _ _ (List.rel_append halike hlaterAlike)
  rw [helements] at hsame
  rw [compile_of_lex hlexed (by simp)]
  generalize Postfix.ofTokens .standard (words ++ _) = compiled at hsame ⊢
  cases hsame with
  | ok h => rw [h]

/-- An operand raised to a signed phrase. -/
theorem compile_power (hlex : lex text = .ok phrase.tokens) {exponent : List Char} {postorder : List Postfix}
    (hexponent : Infix.IsExponentText exponent postorder) :
    compile (String.ofList (entered text.toList ++ '^' :: exponent)) =
      .ok (phrase.postorder ++ postorder ++ [.operator "^"]) := by
  obtain ⟨inner, rfl, hspells⟩ := hexponent ((entered text.toList).length + 1)
  let whole : Infix .sum := .product (.signed (.unsigned
    (.raised (.operand phrase) (entered text.toList).length inner)))
  exact compile_entered hlex (lexFrom_of_spells hspells) (Postfix.ofTokens_of_readsPhrase whole.isRead)

theorem compile_power_plus (hlex : lex text = .ok phrase.tokens) {digits : List Char} (hdigits : IsNumeral digits) :
    compile (String.ofList (entered text.toList ++ '^' :: '+' :: digits)) =
      .ok (phrase.postorder ++ [.operator "^", .literal (Decimal.Digits.toFloat false (.ofNumeral digits)),
        .operator "+"]) := by
  have hnumeral : IsNumeral (String.ofList digits).toList := by rwa [String.toList_ofList]
  have hspells : Spells ((entered text.toList).length + 1) ('+' :: digits)
      [⟨.operator, "+", ((entered text.toList).length + 1 : Nat)⟩,
        ⟨.number, String.ofList digits, ((entered text.toList).length + 1 + 1 : Nat)⟩] :=
    (spells_numeral hdigits _).sign rfl rfl
  have helements := ofTokens_power_plus phrase hnumeral (entered text.toList).length
    ((entered text.toList).length + 1 : Nat) ((entered text.toList).length + 1 + 1 : Nat)
  rw [String.toList_ofList] at helements
  exact compile_entered hlex (lexFrom_of_spells hspells) helements

/-- The exponent is the same with parentheses and without them. -/
theorem compile_signed (hlex : lex text = .ok phrase.tokens) {sign digits : List Char} (hsign : sign ∈ [[], ['-']])
    (hdigits : IsNumeral digits) :
    compile (String.ofList (entered text.toList ++ '^' :: '(' :: (sign ++ digits ++ [')']))) =
      compile (String.ofList (entered text.toList ++ '^' :: (sign ++ digits))) := by
  have hnumber := Infix.isOperandText_number hdigits
  simp only [List.mem_cons, List.not_mem_nil, or_false] at hsign
  rcases hsign with rfl | rfl
  · have hgroup := compile_power hlex hnumber.group.exponent
    rw [List.nil_append, hgroup, compile_power hlex hnumber.exponent]
  · have hgroup := compile_power hlex hnumber.minus.exponent
    rw [List.cons_append, List.nil_append, List.cons_append, hgroup, compile_power hlex hnumber.negative]

end

end Expression

namespace Calculator

open Spelling

variable {text : String} {phrase : Infix .operand}

/-- Of a text that is not too long the plain spelling is evaluated. -/
theorem evaluate_of_fits {calculator : Calculator} (hne : plain text.toList ≠ [])
    (hfits : (ofScalar (.text text)).length ≤ calculator.maxLength) (given : Scalar) :
    calculator.evaluate (.text text) given =
      calculator.unitFor given >>= fun unit => Expression.evaluate (String.ofList (plain text.toList)) unit := by
  have hspelling : ofScalar (.text text) = String.ofList (plain text.toList) := rfl
  have hnotEmpty : ¬(String.ofList (plain text.toList)).isEmpty = true := by
    rw [String.isEmpty_iff, String.ofList_eq_empty_iff]
    exact hne
  rw [hspelling] at hfits
  rw [evaluate, hspelling, if_neg hnotEmpty, if_neg (by omega)]

theorem length_ofScalar (text : String) : (ofScalar (.text text)).length = (plain text.toList).length :=
  String.length_ofList

section

variable (hascii : ∀ c ∈ text.toList, c.toNat < 0x80) (hlex : Token.lex text = .ok phrase.tokens) {digits : List Char}
  (hdigits : ∀ c ∈ digits, c.isDigit) (hne : digits ≠ []) (calculator : Calculator) (given : Scalar)

include hascii hlex hdigits hne

theorem evaluate_raised {sign : List Char} (hsign : sign ∈ [[], ['-']])
    (hfits : (ofScalar (.text (power text (sign ++ digits)))).length ≤ calculator.maxLength) :
    calculator.evaluate (.text (raised text (sign ++ digits))) given =
      calculator.evaluate (.text (power text (sign ++ digits))) given := by
  have hsigns : sign ∈ [[], ['-'], ['+']] := List.mem_append_left [['+']] hsign
  have hraised := plain_raised hascii hlex hsigns hdigits hne
  have hpower := plain_power hascii hlex hsigns hdigits
  have hfitsRaised : (ofScalar (.text (raised text (sign ++ digits)))).length ≤ calculator.maxLength := by
    rw [length_ofScalar, hpower] at hfits
    rw [length_ofScalar, hraised]
    simp only [List.length_append, List.length_cons] at hfits ⊢
    omega
  rw [evaluate_of_fits (by simp [hraised]) hfitsRaised, evaluate_of_fits (by simp [hpower]) hfits, hraised, hpower]
  apply congrArg
  funext unit
  rw [Expression.evaluate, Expression.evaluate, Expression.compile_signed hlex hsign (.whole digits hdigits hne)]

theorem evaluate_raised_plus
    (hfits : (ofScalar (.text (raised text ('+' :: digits)))).length ≤ calculator.maxLength) :
    calculator.evaluate (.text (raised text ('+' :: digits))) given = (do
      let unit ← calculator.unitFor given
      let _ ← Postfix.evaluate unit phrase.postorder
      throw (.fault (.stackUnderflow "^" 2 1))) := by
  have hplus : ['+'] ∈ [[], ['-'], ['+']] := by simp
  have hraised := plain_raised hascii hlex hplus hdigits hne
  rw [List.singleton_append] at hraised
  rw [evaluate_of_fits (by simp [hraised]) hfits, hraised]
  apply congrArg
  funext unit
  have hunderflow : Postfix.evaluate unit (phrase.postorder ++ [.operator "^",
      .literal (Decimal.Digits.toFloat false (.ofNumeral digits)), .operator "+"]) =
      Postfix.evaluate unit phrase.postorder >>= fun _ => .error (.stackUnderflow "^" 2 1) :=
    (phrase.isRun unit).underflow .pow _
  rw [Expression.evaluate, Expression.compile_power_plus hlex (.whole digits hdigits hne), ok_bind, Postfix.finiteValue,
    hunderflow]
  cases Postfix.evaluate unit phrase.postorder <;> rfl

end

/-- An operand with an exponent in superscripts is the power of the operand with this exponent between parentheses,
unless the exponent has a plus sign. Then there is no value: what the operand is at fault with is the fault, and without
one the power lacks its exponent. -/
theorem superscript_exponent (hascii : ∀ c ∈ text.toList, c.toNat < 0x80)
    (hlex : Token.lex text = .ok phrase.tokens) {digits : List Char} (hdigits : ∀ c ∈ digits, c.isDigit)
    (hne : digits ≠ []) (calculator : Calculator) (given : Scalar) :
    (∀ exponent ∈ [digits, '-' :: digits],
      (ofScalar (.text (power text exponent))).length ≤ calculator.maxLength →
      calculator.evaluate (.text (raised text exponent)) given =
        calculator.evaluate (.text (power text exponent)) given) ∧
    ((ofScalar (.text (raised text ('+' :: digits)))).length ≤ calculator.maxLength →
      calculator.evaluate (.text (raised text ('+' :: digits))) given = do
        let unit ← calculator.unitFor given
        let _ ← Postfix.evaluate unit phrase.postorder
        throw (.fault (.stackUnderflow "^" 2 1))) := by
  constructor
  · intro exponent hexponent hfits
    obtain ⟨sign, hsign, rfl⟩ : ∃ sign ∈ [[], ['-']], exponent = sign ++ digits := by
      simpa using hexponent
    exact evaluate_raised hascii hlex hdigits hne calculator given hsign hfits
  · exact evaluate_raised_plus hascii hlex hdigits hne calculator given

theorem superscript_exponent_of_two :
    ∃ phrase : Infix .operand, (∀ c ∈ "2".toList, c.toNat < 0x80) ∧ Token.lex "2" = .ok phrase.tokens ∧
      (∀ c ∈ ['3'], c.isDigit) ∧ ['3'] ≠ [] ∧ raised "2" ['3'] = "2³" ∧ power "2" ['3'] = "2^(3)" ∧
      (ofScalar (.text (power "2" ['3']))).length ≤ (1000 : Int) ∧
      (Calculator.mk .radians 12 1000 (.create 10 1000)).evaluate (.text (raised "2" ['3'])) .absent =
        (Calculator.mk .radians 12 1000 (.create 10 1000)).evaluate (.text (power "2" ['3'])) .absent := by
  have htwo : Token.IsNumeral "2".toList := @Token.isNumeral_digit '2' rfl
  have hlex : Token.lex "2" = .ok (Infix.number "2" htwo 0).tokens :=
    Token.lex_of_spells (Token.spells_numeral htwo 0)
  have hascii : ∀ c ∈ "2".toList, c.toNat < 0x80 := by simp
  have hdigits : ∀ c ∈ ['3'], c.isDigit := List.all_eq_true.mp rfl
  have hfits : (ofScalar (.text (power "2" ['3']))).length ≤ (1000 : Int) := by
    have hpower := @plain_power "2" _ [] ['3'] hascii hlex List.mem_cons_self hdigits
    rw [List.nil_append] at hpower
    rw [length_ofScalar, hpower]
    decide
  have hsame := (superscript_exponent hascii hlex hdigits (List.cons_ne_nil _ _)
    (.mk .radians 12 1000 (.create 10 1000)) .absent).1 ['3'] List.mem_cons_self hfits
  exact ⟨_, hascii, hlex, hdigits, List.cons_ne_nil _ _, rfl, rfl, hfits, hsame⟩

/-- Two to the power of three is written with a superscript plus sign and has no value. -/
theorem evaluate_raised_plus_of_two :
    raised "2" ['+', '3'] = "2⁺³" ∧ power "2" ['3'] = "2^(3)" ∧
    (Calculator.mk .radians 12 1000 (.create 10 1000)).evaluate (.text "2⁺³") .absent =
      .error (.fault (.stackUnderflow "^" 2 1)) ∧
    (Calculator.mk .radians 12 1000 (.create 10 1000)).evaluate (.text "2⁺³") .absent ≠
      (Calculator.mk .radians 12 1000 (.create 10 1000)).evaluate (.text "2^(3)") .absent := by
  have htwo : Token.IsNumeral "2".toList := @Token.isNumeral_digit '2' rfl
  have hthree : Token.IsNumeral ['3'] := Token.isNumeral_digit rfl
  have hlex : Token.lex "2" = .ok (Infix.number "2" htwo 0).tokens :=
    Token.lex_of_spells (Token.spells_numeral htwo 0)
  have hascii : ∀ c ∈ "2".toList, c.toNat < 0x80 := by simp
  have hdigits : ∀ c ∈ ['3'], c.isDigit := List.all_eq_true.mp rfl
  have hraised : plain "2⁺³".toList = ['2', '^', '+', '3'] :=
    @plain_raised "2" _ ['+'] ['3'] hascii hlex (by simp) hdigits (List.cons_ne_nil _ _)
  have hpower : plain "2^(3)".toList = ['2', '^', '(', '3', ')'] :=
    @plain_power "2" _ [] ['3'] hascii hlex List.mem_cons_self hdigits
  have hplus : (Calculator.mk .radians 12 1000 (.create 10 1000)).evaluate (.text "2⁺³") .absent =
      .error (.fault (.stackUnderflow "^" 2 1)) := by
    refine (evaluate_raised_plus hascii hlex hdigits (List.cons_ne_nil _ _) _ .absent ?_).trans rfl
    show ((ofScalar (.text "2⁺³")).length : Int) ≤ 1000
    rw [length_ofScalar, hraised]
    decide
  have hfits : (ofScalar (.text "2^(3)")).length ≤ (1000 : Int) := by
    rw [length_ofScalar, hpower]
    decide
  have hne : plain "2^(3)".toList ≠ [] := by
    rw [hpower]
    exact List.cons_ne_nil _ _
  have hcompile := Expression.compile_power hlex (Infix.isOperandText_number hthree).group.exponent
  have hvalue (x y : Float) : Postfix.finiteValue .radians [.literal x, .literal y, .operator "^"] =
      if (x.pow y).isFinite then .ok (x.pow y) else .error (.nonFinite (x.pow y)) := rfl
  refine ⟨rfl, rfl, hplus, ?_⟩
  intro hsame
  rw [hplus, evaluate_of_fits hne hfits, hpower] at hsame
  cases hfinite : Postfix.finiteValue .radians ((Infix.number "2" htwo 0).postorder ++
      [.literal (Decimal.Digits.toFloat false (.ofNumeral ['3']))] ++ [.operator "^"]) with
  | ok value =>
    have hevaluate := Expression.evaluate_of_compile hcompile hfinite
    cases hsame.trans hevaluate
  | error fault =>
    have hevaluate := Expression.evaluate_error_of_compile hcompile hfinite
    have hfault := hsame.trans hevaluate
    have hcases := hfinite.symm.trans (hvalue _ _)
    split at hcases
    · cases hcases
    · cases hcases
      cases hfault

end Calculator

end SciCalc
