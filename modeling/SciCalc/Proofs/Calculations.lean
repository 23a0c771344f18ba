import SciCalc.Calculator
import SciCalc.Proofs.ClosedEvaluation
import SciCalc.Proofs.RecentSessions
import SciCalc.Proofs.Recompiling
import SciCalc.Proofs.Respellings
import SciCalc.Proofs.ShownValues

/-!
# Calculations

A calculation ends with an outcome, a fault of what was entered or a value and its text, unless the value is rounded
to infinity or the store has no place for the session.
-/

namespace SciCalc

theorem Expression.evaluate_cases (text : String) (unit : AngleUnit) :
    (∃ value, evaluate text unit = .ok value ∧ value.isFinite = true) ∨
    ∃ fault, evaluate text unit = .error (.fault fault) := by
  rcases compile_cases text with ⟨elements, hcompile, helements⟩ | ⟨fault, -, hcompile⟩
  · rcases Postfix.finiteValue_of_isCompiled unit helements with ⟨value, hvalue, hfinite⟩ | ⟨fault, -, hfault⟩
    · exact Or.inl ⟨value, evaluate_of_compile hcompile hvalue, hfinite⟩
    · exact Or.inr ⟨fault, evaluate_error_of_compile hcompile hfault⟩
  · refine Or.inr ⟨fault, ?_⟩
    rw [evaluate, hcompile, error_bind]

theorem Store.add_fst (store : Store) (name : String) (entry : Entry) :
    (store.add name entry).1 = (store.get name).1.map (·.add entry) := by
  rw [add, update]
  rcases store.get name with ⟨answer, store⟩
  cases answer <;> rfl

namespace Calculator

/-- How a calculation ends. -/
inductive Ends (calculator : Calculator) (entered given : Scalar) (session : Option String) : Prop where
  /-- The fault of what was entered is the outcome, and nothing is remembered. -/
  | rejected (fault : Fault) (hfault : calculator.evaluate entered given = .error (.fault fault))
      (hanswer : calculator.calculate entered given session = (.ok ⟨entered, .error fault⟩, calculator))
  /-- The value and its text are the outcome. -/
  | shown (value : Float) (text : String) (hvalue : calculator.evaluate entered given = .ok value)
      (hfinite : value.isFinite = true) (hrounded : ¬Display.Overflows calculator.precision value)
      (htext : Display.text calculator.precision Settings.standard.zeroThreshold value = .ok text)
      (hanswer : (calculator.calculate entered given session).1 = .ok ⟨entered, .ok ⟨value, text⟩⟩)
  /-- The value has no text, and there is no outcome. -/
  | overflowed (value : Float) (hvalue : calculator.evaluate entered given = .ok value)
      (hfinite : value.isFinite = true) (hrounded : Display.Overflows calculator.precision value)
      (hprecision : calculator.precision ∈ Display.overflowing)
      (hanswer : calculator.calculate entered given session = (.error .noExponent, calculator))
  /-- The store cannot hold the session, and there is no outcome. -/
  | forgotten (value : Float) (name : String) (failure : Failure)
      (hvalue : calculator.evaluate entered given = .ok value) (hsession : session = some name)
      (hstore : ¬calculator.store.IsUsable) (hget : (calculator.store.get name).1 = .error failure)
      (hanswer : (calculator.calculate entered given session).1 = .error failure)

section

variable {calculator : Calculator} {entered given : Scalar} {session : Option String}

/-- What was entered has a finite value or a fault. -/
theorem evaluate_cases {unit : AngleUnit} (hunit : calculator.unitFor given = .ok unit) (entered : Scalar) :
    (∃ value, calculator.evaluate entered given = .ok value ∧ value.isFinite = true) ∨
    ∃ fault, calculator.evaluate entered given = .error (.fault fault) := by
  by_cases hempty : (Spelling.ofScalar entered).isEmpty = true
  · refine Or.inr ⟨.emptyExpression, ?_⟩
    simp only [evaluate, hempty, if_true]
    rfl
  by_cases hlong : calculator.maxLength < (Spelling.ofScalar entered).length
  · refine Or.inr ⟨.inputTooLong (Spelling.ofScalar entered).length calculator.maxLength, ?_⟩
    simp only [evaluate, hempty, hlong, if_true]
    rfl
  have hevaluate : calculator.evaluate entered given = Expression.evaluate (Spelling.ofScalar entered) unit := by
    simp only [evaluate, hempty, hlong, hunit]
    rfl
  rw [hevaluate]
  exact Expression.evaluate_cases _ unit

theorem expression_of_assess {outcome : Outcome} (h : calculator.assess entered given = .ok outcome) :
    outcome.expression = entered := by
  unfold assess at h
  split at h
  · cases h
    rfl
  · contradiction
  · obtain ⟨text, -, h⟩ := bind_eq_ok h
    cases h
    rfl

theorem calculate_none (calculator : Calculator) (entered given : Scalar) :
    calculator.calculate entered given none = (calculator.assess entered given, calculator) := by
  cases hassess : calculator.assess entered given <;> simp only [calculate, hassess]

theorem calculate_of_shown {shown : ShownValue} (h : calculator.assess entered given = .ok ⟨entered, .ok shown⟩)
    (name : String) : calculator.calculate entered given (some name) =
      ((calculator.store.add name ⟨entered, shown.text⟩).1.map fun _ => ⟨entered, .ok shown⟩,
        { calculator with store := (calculator.store.add name ⟨entered, shown.text⟩).2 }) := by
  simp only [calculate, h]
  rfl

theorem calculate_of_not_shown (h : ∀ shown, calculator.assess entered given ≠ .ok ⟨entered, .ok shown⟩)
    (session : Option String) :
    calculator.calculate entered given session = (calculator.assess entered given, calculator) := by
  cases session with
  | none => exact calculate_none calculator entered given
  | some name =>
    cases hassess : calculator.assess entered given with
    | error failure => simp only [calculate, hassess]
    | ok outcome =>
      obtain ⟨expression, answer⟩ := outcome
      obtain rfl : expression = entered := expression_of_assess hassess
      cases answer with
      | ok shown => exact absurd hassess (h shown)
      | error fault =>
        simp only [calculate, hassess]
        rfl

theorem calculate_of_rejected {fault : Fault} (hassess : calculator.assess entered given = .ok ⟨entered, .error fault⟩)
    (session : Option String) :
    calculator.calculate entered given session = (.ok ⟨entered, .error fault⟩, calculator) := by
  have hnot : ∀ shown, calculator.assess entered given ≠ .ok ⟨entered, .ok shown⟩ := by
    intro shown hshown
    rw [hassess] at hshown
    cases hshown
  rw [calculate_of_not_shown hnot, hassess]

theorem calculate_of_fault {fault : Fault} (hfault : calculator.evaluate entered given = .error (.fault fault))
    (session : Option String) :
    calculator.calculate entered given session = (.ok ⟨entered, .error fault⟩, calculator) := by
  have hassess : calculator.assess entered given = .ok ⟨entered, .error fault⟩ := by
    simp only [assess, hfault]
  exact calculate_of_rejected hassess session

theorem assess_of_text {value : Float} (hvalue : calculator.evaluate entered given = .ok value) :
    calculator.assess entered given =
      (Display.text calculator.precision Settings.standard.zeroThreshold value).map
        fun text => ⟨entered, .ok ⟨value, text⟩⟩ := by
  simp only [assess, hvalue]
  cases Display.text calculator.precision Settings.standard.zeroThreshold value <;> rfl

/-- In a valid unit what is entered has an outcome unless its value is rounded to infinity. -/
theorem assess_cases {unit : AngleUnit} (hunit : calculator.unitFor given = .ok unit) (hlow : 1 ≤ calculator.precision)
    (hhigh : calculator.precision ≤ 17) (entered : Scalar) :
    ((¬∃ value, calculator.evaluate entered given = .ok value ∧ Display.Overflows calculator.precision value) ∧
      ∃ outcome, calculator.assess entered given = .ok outcome) ∨
    ((∃ value, calculator.evaluate entered given = .ok value ∧ Display.Overflows calculator.precision value) ∧
      calculator.precision ∈ Display.overflowing ∧ calculator.assess entered given = .error .noExponent) := by
  rcases evaluate_cases hunit entered with ⟨value, hvalue, hfinite⟩ | ⟨fault, hfault⟩
  · rw [assess_of_text hvalue, hvalue]
    rcases Display.text_cases hlow hhigh hfinite with ⟨hnot, shown, hshown⟩ | ⟨hover, hgreat, herror⟩
    · rw [hshown]
      refine Or.inl ⟨?_, _, rfl⟩
      rintro ⟨value', hvalue', hover⟩
      cases hvalue'
      exact hnot hover
    · rw [herror]
      exact Or.inr ⟨⟨value, rfl, hover⟩, hgreat, rfl⟩
  · have hassess : calculator.assess entered given = .ok ⟨entered, .error fault⟩ := by
      simp only [assess, hfault]
    rw [hassess, hfault]
    refine Or.inl ⟨?_, _, rfl⟩
    rintro ⟨value, hvalue, -⟩
    contradiction

theorem calculate_of_failure {failure : Failure} (hassess : calculator.assess entered given = .error failure)
    (session : Option String) :
    calculator.calculate entered given session = (.error failure, calculator) := by
  have hnot : ∀ shown, calculator.assess entered given ≠ .ok ⟨entered, .ok shown⟩ := by
    intro shown hshown
    rw [hassess] at hshown
    cases hshown
  rw [calculate_of_not_shown hnot, hassess]

theorem ends_of_text {value : Float} {text : String} (hvalue : calculator.evaluate entered given = .ok value)
    (hfinite : value.isFinite = true) (hrounded : ¬Display.Overflows calculator.precision value)
    (htext : Display.text calculator.precision Settings.standard.zeroThreshold value = .ok text)
    (session : Option String) : Ends calculator entered given session := by
  have hassess : calculator.assess entered given = .ok ⟨entered, .ok ⟨value, text⟩⟩ := by
    rw [assess_of_text hvalue, htext]
    rfl
  cases session with
  | none =>
    refine .shown value text hvalue hfinite hrounded htext ?_
    rw [calculate_none, hassess]
  | some name =>
    have hanswer : (calculator.calculate entered given (some name)).1 =
        ((calculator.store.get name).1.map (·.add ⟨entered, text⟩)).map
          fun _ => ⟨entered, .ok ⟨value, text⟩⟩ := by
      rw [calculate_of_shown hassess, Store.add_fst]
    cases hget : (calculator.store.get name).1 with
    | ok history =>
      rw [hget] at hanswer
      exact .shown value text hvalue hfinite hrounded htext hanswer
    | error failure =>
      have hstore : ¬calculator.store.IsUsable := by
        intro husable
        rw [Store.get_eq husable] at hget
        contradiction
      rw [hget] at hanswer
      exact .forgotten value name failure hvalue rfl hstore hget hanswer

/-- A calculation has an outcome, the fault of what was entered or its value and the text that shows it, unless the
value is rounded to infinity or the store cannot hold the session. -/
theorem calculate_ends {unit : AngleUnit} (hunit : calculator.unitFor given = .ok unit)
    (hlow : 1 ≤ calculator.precision) (hhigh : calculator.precision ≤ 17) (entered : Scalar)
    (session : Option String) : Ends calculator entered given session := by
  obtain ⟨count, hcount, hprecision⟩ : ∃ count : Nat, count ≤ 16 ∧ calculator.precision = (count + 1 : Nat) :=
    ⟨calculator.precision.toNat - 1, by omega, by omega⟩
  rcases evaluate_cases hunit entered with ⟨value, hvalue, hfinite⟩ | ⟨fault, hfault⟩
  · by_cases hrounded : Display.Overflows calculator.precision value
    · have hgreat : calculator.precision ∈ Display.overflowing := by
        rw [hprecision] at hrounded ⊢
        exact (Display.exists_overflows_iff hcount).mp ⟨value, hfinite, hrounded⟩
      have hassess : calculator.assess entered given = .error .noExponent := by
        rw [hprecision] at hrounded
        rw [assess_of_text hvalue, hprecision, Display.text_of_overflows hfinite hcount hrounded]
        rfl
      exact .overflowed value hvalue hfinite hrounded hgreat (calculate_of_failure hassess session)
    · obtain ⟨text, htext⟩ : ∃ text,
          Display.text calculator.precision Settings.standard.zeroThreshold value = .ok text := by
        rw [hprecision] at hrounded ⊢
        exact Display.text_of_not_overflows hfinite hcount hrounded _
      exact ends_of_text hvalue hfinite hrounded htext session
  · exact .rejected fault hfault (calculate_of_fault hfault session)

/-- A quotient by zero is rejected, whatever the unit and the session. -/
theorem calculate_ends_quotient_by_zero :
    (Calculator.mk .radians 12 1000 (.create 10 1000)).unitFor (.text "deg") = .ok .degrees ∧
    Ends ⟨.radians, 12, 1000, .create 10 1000⟩ (.text "1/0") (.text "deg") (some "a") := by
  have hunit : (Calculator.mk .radians 12 1000 (.create 10 1000)).unitFor (.text "deg") = .ok .degrees := by rfl
  exact ⟨hunit, calculate_ends hunit (by decide) (by decide) (.text "1/0") (some "a")⟩

end

/-! ### Numerals -/

section

open Decimal Token

variable {digits : List Char}

/-- A numeral that is not too long has the value nearest to what it writes. -/
theorem evaluate_numeral (h : IsNumeral digits) {calculator : Calculator} {given : Scalar} {unit : AngleUnit}
    (hunit : calculator.unitFor given = .ok unit) (hlength : (digits.length : Int) ≤ calculator.maxLength)
    (hfinite : (Digits.toFloat false (.ofNumeral digits)).isFinite = true) :
    calculator.evaluate (.text (String.ofList digits)) given =
      .ok (Digits.toFloat false (.ofNumeral digits)) := by
  have htext : (String.ofList digits).toList = digits := String.toList_ofList
  have hspelling : Spelling.ofScalar (.text (String.ofList digits)) = String.ofList digits := by
    show String.ofList (Spelling.plain (String.ofList digits).toList) = String.ofList digits
    rw [htext, Spelling.plain_numeral h.chars]
  have hempty : ¬(String.ofList digits).isEmpty = true := by
    simp [h.ne_nil]
  have hlong : ¬calculator.maxLength < ((String.ofList digits).length : Int) := by
    rw [← String.length_toList, htext]
    omega
  have hvalue : Postfix.finiteValue unit [.literal (Digits.toFloat false (.ofNumeral digits))] =
      .ok (Digits.toFloat false (.ofNumeral digits)) := if_pos hfinite
  simp only [evaluate, hspelling, hempty, hlong, hunit]
  exact Expression.evaluate_of_compile (Expression.compile_numeral h) hvalue

/-- There is no outcome for a numeral whose value is rounded to infinity. -/
theorem calculate_great_numeral (h : IsNumeral digits) {calculator : Calculator} {given : Scalar} {unit : AngleUnit}
    {bits count : Nat} (hunit : calculator.unitFor given = .ok unit)
    (hlength : (digits.length : Int) ≤ calculator.maxLength) (hprecision : calculator.precision = (count + 1 : Nat))
    (hcount : count ≤ 16) (hbits : (Digits.ofNumeral digits).nearestBits = bits)
    (hbelow : bits < Magnitude.infinityBits)
    (hgreat : (Digits.significant (.ofBits bits) (count + 1)).nearestBits = Magnitude.infinityBits)
    (session : Option String) :
    calculator.calculate (.text (String.ofList digits)) given session = (.error .noExponent, calculator) := by
  have hvalue : Digits.toFloat false (.ofNumeral digits) = ofSignAndBits false bits :=
    congrArg (ofSignAndBits false) hbits
  have hfinite := isFinite_signAndBits false hbelow
  have hevaluate := evaluate_numeral h hunit hlength (by rwa [hvalue])
  have hoverflow := (Display.overflows_iff false hbelow hcount).mpr hgreat
  have hassess : calculator.assess (.text (String.ofList digits)) given = .error .noExponent := by
    rw [assess_of_text hevaluate, hvalue, hprecision, Display.text_of_overflows hfinite hcount hoverflow]
    rfl
  exact calculate_of_failure hassess session

/-- The digits of seventeen and 307 zeros behind them. -/
def greatDigits : List Char := '1' :: '7' :: List.replicate 307 '0'

/-- A calculator that shows one digit has no outcome for these digits. -/
theorem calculate_greatDigits {calculator : Calculator} {given : Scalar} {unit : AngleUnit}
    (hunit : calculator.unitFor given = .ok unit) (hlength : (greatDigits.length : Int) ≤ calculator.maxLength)
    (hprecision : calculator.precision = 1) (session : Option String) :
    calculator.calculate (.text (String.ofList greatDigits)) given session = (.error .noExponent, calculator) := by
  have hdigits : ∀ c ∈ greatDigits, c.isDigit := List.all_eq_true.mp (by decide +kernel)
  have hnumeral : IsNumeral greatDigits := .whole greatDigits hdigits (List.cons_ne_nil _ _)
  have hbits : (Digits.ofNumeral greatDigits).nearestBits = 0x7FEE42D130773B76 := by decide +kernel
  have hgreat : (Digits.significant (.ofBits 0x7FEE42D130773B76) (0 + 1)).nearestBits = Magnitude.infinityBits := by
    decide +kernel
  exact @calculate_great_numeral _ hnumeral calculator given unit _ 0 hunit hlength hprecision (by decide) hbits
    (by decide) hgreat session

/-- The value of these digits is finite, but a calculator that shows one digit has no outcome for them. -/
theorem calculate_without_outcome :
    1 ≤ (1 : Int) ∧ (1 : Int) ≤ 17 ∧ (0 : Int) < 1000 ∧
    (Calculator.mk .radians 1 1000 (.create 10 1000)).unitFor .absent = .ok .radians ∧
    ¬∃ outcome, ((Calculator.mk .radians 1 1000 (.create 10 1000)).calculate
      (.text (String.ofList greatDigits)) .absent none).1 = .ok outcome := by
  have hdigits : ∀ c ∈ greatDigits, c.isDigit := List.all_eq_true.mp (by decide +kernel)
  have hnumeral : IsNumeral greatDigits := .whole greatDigits hdigits (List.cons_ne_nil _ _)
  have hbits : (Digits.ofNumeral greatDigits).nearestBits = 0x7FEE42D130773B76 := by decide +kernel
  have hgreat : (Digits.significant (.ofBits 0x7FEE42D130773B76) (0 + 1)).nearestBits = Magnitude.infinityBits := by
    decide +kernel
  refine ⟨by decide, by decide, by decide, rfl, ?_⟩
  rintro ⟨outcome, houtcome⟩
  rw [@calculate_great_numeral _ hnumeral (.mk .radians 1 1000 (.create 10 1000)) .absent .radians _ 0 rfl
    (by decide +kernel) rfl (by decide) hbits (by decide) hgreat none] at houtcome
  cases houtcome

end

end Calculator

end SciCalc
