import SciCalc.Expression
import SciCalc.Proofs.Derivability
import SciCalc.Proofs.LexedTokens
import SciCalc.Proofs.LexerSteps
import SciCalc.Proofs.ShuntingYard

/-!
# Infix texts

The parser does not ask where operands and operators stand, it counts on the evaluation to miss an operand.
Of the texts that are evaluated those are infix whose tokens stand in place, and no others: two operands side
by side and a sign without operands can make up for each other.
-/

namespace SciCalc

open Token (Place InPlace)

namespace Token

theorem exists_binary {text : String} (h : text ∈ operatorTexts) (hne : text ≠ "%") :
    ∃ op : BinaryOperator, text = (Operator.binary op).symbol := by
  simp only [operatorTexts, List.mem_cons, List.not_mem_nil, or_false] at h
  rcases h with rfl | rfl | rfl | rfl | rfl | rfl
  · exact ⟨.add, rfl⟩
  · exact ⟨.sub, rfl⟩
  · exact ⟨.mul, rfl⟩
  · exact ⟨.div, rfl⟩
  · exact ⟨.pow, rfl⟩
  · contradiction

end Token

namespace Postfix.Parser

open Infix Token

/-- A token in place that the parser takes goes on with the derivation. -/
theorem Turn.begun {state next : State} {token : Token} {place place' : Place} {read : List Token}
    (h : Turn .standard state token next) (hspelled : token.IsSpelled)
    (hcall : state.afterFunction = decide (place = .name)) (hplace : place.next? token = some place')
    (hbegun : Begun place state.frames read) :
    Begun place' next.frames (read ++ [token]) ∧ next.afterFunction = decide (place' = .name) := by
  cases h with
  | @number output stack frames expect previous text value offset hvalue =>
    have hbegins : place.Begins := by
      cases place <;> simp [Place.next?, Place.Begins] at hplace ⊢
    obtain rfl : Place.value = place' := by
      simpa only [hbegins.number, Option.some.injEq] using hplace
    exact ⟨hbegun.behind_operand hbegins (.number text hspelled offset), rfl⟩
  | @function output stack frames expect previous text rule offset hrule =>
    have hbegins : place.Begins := by
      cases place <;> simp [Place.next?, Place.Begins] at hplace ⊢
    obtain rfl : Place.name = place' := by
      simpa [hbegins.identifier, hrule] using hplace
    obtain ⟨outer, lead, houter, hlead, rfl⟩ := hbegun.exists_opened hbegins
    exact ⟨.name houter hlead hrule offset, rfl⟩
  | @constant output stack frames expect previous text value offset hrule hvalue =>
    have hbegins : place.Begins := by
      cases place <;> simp [Place.next?, Place.Begins] at hplace ⊢
    obtain rfl : Place.value = place' := by
      simpa [hbegins.identifier, hrule] using hplace
    exact ⟨hbegun.behind_operand hbegins (.constant text value hvalue offset), rfl⟩
  | @openParen output stack frames expect previous call text offset =>
    obtain rfl : text = "(" := hspelled
    by_cases hname : place = .name
    · subst hname
      obtain rfl : call = true := hcall
      obtain rfl : Place.arguments = place' := Option.some.inj hplace
      cases hbegun with
      | name houter hlead hrule place =>
        rw [List.append_assoc]
        exact ⟨.arguments houter hlead hrule place offset, rfl⟩
    · obtain rfl : call = false := by simpa [hname] using hcall
      have hbegins : place.Begins := by
        cases place <;> simp [Place.next?, Place.Begins] at hname hplace ⊢
      obtain rfl : Place.operand = place' := by
        simpa only [hbegins.leftParen, Option.some.injEq] using hplace
      obtain ⟨outer, lead, houter, hlead, rfl⟩ := hbegun.exists_opened hbegins
      have hnext := Begun.operand (.group houter hlead 0 offset) leads_nil
      exact ⟨by simpa using hnext, rfl⟩
  | @closeGroup output stack commas frames expect previous written top below text offset hunwind =>
    obtain rfl : text = ")" := hspelled
    cases hbegun with
    | operand | name => simp [Place.next?] at hplace
    | value houter hlead value =>
      obtain rfl : Place.value = place' := Option.some.inj hplace
      exact ⟨houter.behind_close hlead value offset, rfl⟩
  | @closeCall output stack commas frames expect previous written top name place below text offset hunwind =>
    obtain rfl : text = ")" := hspelled
    cases hbegun with
    | operand | name => simp [Place.next?] at hplace
    | arguments houter hlead hrule place first =>
      obtain rfl : Place.value = place' := Option.some.inj hplace
      have hnext := Begun.value houter hlead (.operand (.callNone _ _ hrule place first offset))
      exact ⟨by simpa [tokens] using hnext, rfl⟩
    | value houter hlead value =>
      obtain rfl : Place.value = place' := Option.some.inj hplace
      exact ⟨houter.behind_close hlead value offset, rfl⟩
  | @comma output stack commas frames expect previous written top below text offset hunwind =>
    obtain rfl : text = "," := hspelled
    cases hbegun with
    | operand | name | arguments => simp [Place.next?] at hplace
    | value houter hlead value =>
      obtain rfl : Place.operand = place' := Option.some.inj hplace
      obtain ⟨inner, hinner⟩ := hlead.value value
      have hnext := Begun.operand (houter.next inner offset) leads_nil
      rw [hinner] at hnext
      exact ⟨by simpa using hnext, rfl⟩
  | @operator output stack frames expect previous text incoming offset hrule hfault =>
    by_cases hbegins : place.Begins
    · obtain ⟨rfl, rfl⟩ : text = "-" ∧ Place.operand = place' := by
        rcases hbegins with rfl | rfl <;> simpa [Place.next?] using hplace
      exact ⟨hbegun.behind_sign hbegins offset, rfl⟩
    · obtain rfl : place = .value := by
        cases place <;> simp [Place.next?, Place.Begins] at hbegins hplace ⊢
      by_cases hpercent : text = "%"
      · subst hpercent
        obtain rfl : Place.value = place' := Option.some.inj hplace
        exact ⟨hbegun.behind_percent offset, rfl⟩
      · obtain ⟨op, rfl⟩ := exists_binary hspelled hpercent
        obtain rfl : Place.operand = place' := by
          simpa only [next?_binary, Option.some.injEq] using hplace
        exact ⟨hbegun.behind_binary op offset, rfl⟩

theorem begun_of_run {tokens : List Token} (hspelled : ∀ token ∈ tokens, token.IsSpelled)
    {state final : State} {place place' : Place} {read : List Token}
    (hrun : run .standard state tokens = .ok final)
    (hplace : tokens.foldlM Place.next? place = some place') (hmatched : state.IsMatched)
    (hcall : state.afterFunction = decide (place = .name)) (hbegun : Begun place state.frames read) :
    final.IsMatched ∧ final.afterFunction = decide (place' = .name) ∧
      Begun place' final.frames (read ++ tokens) := by
  induction tokens generalizing state place read with
  | nil =>
    obtain rfl : state = final := Except.ok.inj hrun
    obtain rfl : place = place' := Option.some.inj hplace
    exact ⟨hmatched, hcall, by rwa [List.append_nil]⟩
  | cons token rest ih =>
    unfold run at hrun
    rw [List.foldlM_cons] at hrun hplace
    obtain ⟨next, hstep, hrun⟩ := bind_eq_ok hrun
    obtain ⟨middle, hmiddle, hplace⟩ := Option.bind_eq_some_iff.mp hplace
    have hturn := turn_of_step hstep
    obtain ⟨hnext, hcallNext⟩ := hturn.begun (hspelled token List.mem_cons_self) hcall hmiddle hbegun
    have hfinal := ih (fun t ht => hspelled t (List.mem_cons_of_mem token ht)) hrun hplace
      (hturn.isMatched hmatched) hcallNext hnext
    rwa [List.append_assoc, List.singleton_append] at hfinal

/-- The parser takes a binary operator behind both of its operands. -/
theorem ofTokens_behind {first second : String} (hfirst : Token.IsNumeral first.toList)
    (hsecond : Token.IsNumeral second.toList) (op : BinaryOperator) (i j k : Int) :
    ofTokens .standard [⟨.number, first, i⟩, ⟨.number, second, j⟩,
        ⟨.operator, (Operator.binary op).symbol, k⟩] =
      .ok [.literal (Decimal.Digits.toFloat false (.ofNumeral first.toList)),
        .literal (Decimal.Digits.toFloat false (.ofNumeral second.toList)),
        .operator (Operator.binary op).symbol] := by
  have hop : Operator.binary op ∈ Level.sum.operators := by
    cases op <;> decide
  have hstep (output : List Postfix) :
      step .standard ⟨output, [], [], false, some .number, false⟩
        ⟨.operator, (Operator.binary op).symbol, k⟩ =
      .ok ⟨output, [.operator (Operator.binary op).rule k], [], true, some .operator, false⟩ :=
    @step_binary output [] [] (some .number) .sum op [] (by simp) hop trivial k
  have hrun : run .standard {} [⟨.number, first, i⟩, ⟨.number, second, j⟩,
      ⟨.operator, (Operator.binary op).symbol, k⟩] =
      .ok ⟨[.literal (Decimal.Digits.toFloat false (.ofNumeral second.toList)),
        .literal (Decimal.Digits.toFloat false (.ofNumeral first.toList))],
        [.operator (Operator.binary op).rule k], [], true, some .operator, false⟩ := by
    unfold run
    rw [List.foldlM_cons, step_number hfirst, ok_bind, List.foldlM_cons, step_number hsecond, ok_bind,
      List.foldlM_cons]
    exact congrArg (· >>= _) (hstep _)
  rw [ofTokens, hrun]
  rfl

end Postfix.Parser

open Infix Token Postfix.Parser

/-- Tokens in place that the parser takes to the end are those of a derivation. -/
theorem Infix.exists_of_inPlace {tokens : List Token} {elements : List Postfix}
    (hspelled : ∀ token ∈ tokens, token.IsSpelled) (hplace : InPlace tokens)
    (h : Postfix.ofTokens .standard tokens = .ok elements) :
    ∃ phrase : Infix .sum, phrase.tokens = tokens := by
  obtain ⟨final, hrun, hname, hflush⟩ := exists_run_of_ofTokens h
  have hbegin : Begun .operand [] [] := .operand .none leads_nil
  obtain ⟨hmatched, -, hbegun⟩ := begun_of_run hspelled hrun hplace .empty rfl hbegin
  have hclosed : final.frames = [] := by
    obtain ⟨output, stack, frames, expect, previous, call⟩ := final
    obtain rfl : call = false := hname
    exact frames_of_flush hmatched hflush
  rw [hclosed] at hbegun
  cases hbegun with
  | value houter hlead value =>
    cases houter
    exact hlead.value value

namespace Expression

theorem compile_of_lex {text : String} {tokens : List Token} (h : lex text = .ok tokens)
    (hne : tokens ≠ []) : compile text = Postfix.ofTokens .standard tokens := by
  cases tokens with
  | nil => contradiction
  | cons token rest =>
    simp only [compile, h]
    rfl

/-- A text is infix exactly if it compiles and its tokens stand in place. Hence of the texts that are
evaluated just those with a token out of place are no infix texts. -/
theorem infix_iff_inPlace {text : String} {tokens : List Token} (hlex : lex text = .ok tokens) :
    (∃ phrase : Infix .sum, phrase.tokens = tokens) ↔
      (∃ elements, compile text = .ok elements) ∧ InPlace tokens := by
  have hne (h : InPlace tokens) : tokens ≠ [] := by
    rintro rfl
    contradiction
  constructor
  · rintro ⟨phrase, rfl⟩
    have hplace := phrase.inPlace_tokens
    refine ⟨⟨phrase.postorder, ?_⟩, hplace⟩
    rw [compile_of_lex hlex (hne hplace)]
    exact Postfix.ofTokens_of_readsPhrase phrase.isRead
  · rintro ⟨⟨elements, hcompile⟩, hplace⟩
    rw [compile_of_lex hlex (hne hplace)] at hcompile
    exact Infix.exists_of_inPlace (isSpelled_of_lex hlex) hplace hcompile

theorem lex_operator_behind :
    lex "2 3 +" = .ok [⟨.number, "2", 0⟩, ⟨.number, "3", 2⟩, ⟨.operator, "+", 4⟩] := by
  have htwo : IsNumeral ['2'] := isNumeral_digit rfl
  have hthree : IsNumeral ['3'] := isNumeral_digit rfl
  have hlast : lexFrom 4 ['+'] = .ok [⟨.operator, "+", 4⟩] := by
    rw [@lexFrom_sign '+' .operator "+" rfl rfl, lexFrom]
    rfl
  calc
    lex "2 3 +" = (lexFrom 1 [' ', '3', ' ', '+']).map (⟨.number, "2", 0⟩ :: ·) :=
      lexFrom_number htwo (stops_cons rfl _) 0
    _ = ((lexFrom 3 [' ', '+']).map (⟨.number, "3", 2⟩ :: ·)).map (⟨.number, "2", 0⟩ :: ·) := by
      rw [lexFrom_blank rfl]
      exact congrArg _ (lexFrom_number hthree (stops_cons rfl _) 2)
    _ = .ok [⟨.number, "2", 0⟩, ⟨.number, "3", 2⟩, ⟨.operator, "+", 4⟩] := by
      rw [lexFrom_blank rfl, hlast]
      rfl

theorem infix_iff_inPlace_operator_behind :
    lex "2 3 +" = .ok [⟨.number, "2", 0⟩, ⟨.number, "3", 2⟩, ⟨.operator, "+", 4⟩] ∧
    ((∃ phrase : Infix .sum,
        phrase.tokens = [⟨.number, "2", 0⟩, ⟨.number, "3", 2⟩, ⟨.operator, "+", 4⟩]) ↔
      (∃ elements, compile "2 3 +" = .ok elements) ∧
        InPlace [⟨.number, "2", 0⟩, ⟨.number, "3", 2⟩, ⟨.operator, "+", 4⟩]) :=
  ⟨lex_operator_behind, infix_iff_inPlace lex_operator_behind⟩

theorem evaluate_of_compile {text : String} {elements : List Postfix} {unit : AngleUnit} {value : Float}
    (hcompile : compile text = .ok elements) (hvalue : Postfix.finiteValue unit elements = .ok value) :
    evaluate text unit = .ok value := by
  rw [evaluate, hcompile, ok_bind, hvalue]
  rfl

/-- The text `2 3 +` has a value, but it is not infix. -/
theorem evaluate_out_of_place : ∃ tokens elements tree value, lex "2 3 +" = .ok tokens ∧
    compile "2 3 +" = .ok elements ∧ Tree.ofPostfix elements = .ok tree ∧
    evaluate "2 3 +" .radians = .ok value ∧ ¬∃ phrase : Infix .sum, phrase.tokens = tokens := by
  have htwo : IsNumeral "2".toList := @isNumeral_digit '2' rfl
  have hthree : IsNumeral "3".toList := @isNumeral_digit '3' rfl
  have hcompile := (compile_of_lex lex_operator_behind (by simp)).trans
    (ofTokens_behind htwo hthree .add 0 2 4)
  have hfinite : (Decimal.Digits.toFloat false (.ofNumeral "2".toList) +
      Decimal.Digits.toFloat false (.ofNumeral "3".toList)).isFinite = true := by
    decide +kernel
  have hvalue (x y : Float) (h : (x + y).isFinite = true) :
      Postfix.finiteValue .radians [.literal x, .literal y, .operator "+"] = .ok (x + y) :=
    if_pos h
  have heval := evaluate_of_compile hcompile (hvalue _ _ hfinite)
  refine ⟨_, _, _, _, lex_operator_behind, hcompile, rfl, heval, ?_⟩
  rintro ⟨phrase, hphrase⟩
  have hplace := phrase.inPlace_tokens
  rw [hphrase] at hplace
  exact absurd hplace (by decide)

end Expression

end SciCalc
