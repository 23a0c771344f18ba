import Mathlib.Data.List.Perm.Basic
import SciCalc.Proofs.Offences
import SciCalc.Proofs.WrittenLiterals

/-!
# Where the elements come from

The parser writes one element for every number, name and operator, and nothing else. What it writes is told by the token
and the tokens around it, and a literal is not overtaken by what is read behind it.
-/

namespace SciCalc

namespace Token

/-- The commas directly inside parentheses that are open before the tokens: the innermost ones if `depth` is zero, else
the ones around so many others. -/
def commasInside : Nat → List Token → Nat
  | _, [] => 0
  | depth, token :: later =>
    match token.kind, depth with
    | .leftParen, depth => commasInside (depth + 1) later
    | .rightParen, 0 => 0
    | .rightParen, depth + 1 => commasInside depth later
    | .comma, 0 => commasInside 0 later + 1
    | _, depth => commasInside depth later

/-- The arguments between the parentheses with which the tokens begin. -/
def argumentCount (later : List Token) : Nat :=
  if later.tail.head?.any fun token => token.kind == .rightParen then 0 else commasInside 0 later.tail + 1

/-- The token becomes an element of the postfix form. -/
def isWritten (token : Token) : Bool :=
  match token.kind with
  | .number | .identifier | .operator => true
  | .leftParen | .rightParen | .comma => false

/-- The element that a token becomes between other tokens. Those before it are given latest first. -/
def element? (earlier : List Token) (token : Token) (later : List Token) : Option Postfix :=
  match token.kind with
  | .number => (Decimal.readFloat? token.text).map .literal
  | .identifier =>
    match Tables.standard.function? token.text with
    | some rule => some (.call rule.name (some (argumentCount later)))
    | none => (Tables.standard.constant? token.text).map .literal
  | .operator =>
    some (.operator (if token.text = "-" && asksOperand earlier then Operator.negSymbol else token.text))
  | .leftParen | .rightParen | .comma => none

/-- The element that the token at the place becomes. -/
def elementAt? (tokens : List Token) (place : Nat) : Option Postfix :=
  tokens[place]?.bind fun token => token.element? (tokens.take place).reverse (tokens.drop (place + 1))

/-- The places of the tokens before `count` that become elements. -/
def writtenPlaces (tokens : List Token) (count : Nat) : List Nat :=
  (List.range count).filter fun place => tokens[place]?.any isWritten

section

variable {tokens before later : List Token} {token : Token} {places : List Nat} {place count : Nat}

theorem elementAt?_of_split (h : tokens = before ++ token :: later) :
    elementAt? tokens before.length = token.element? before.reverse later := by
  subst h
  have hdrop : (before ++ token :: later).drop (before.length + 1) = later := by
    rw [← List.drop_drop, List.drop_left, List.drop_one, List.tail_cons]
  simp [elementAt?, hdrop]

theorem writtenPlaces_of_split (h : tokens = before ++ token :: later) :
    writtenPlaces tokens (before ++ [token]).length =
      writtenPlaces tokens before.length ++ if token.isWritten then [before.length] else [] := by
  subst h
  rw [List.length_append, List.length_singleton, writtenPlaces, List.range_succ, List.filter_append, writtenPlaces]
  cases hwritten : token.isWritten <;> simp [hwritten]

theorem lt_of_mem_writtenPlaces (h : place ∈ writtenPlaces tokens count) : place < count :=
  List.mem_range.mp (List.mem_filter.mp h).1

theorem perm_of_unwritten (h : tokens = before ++ token :: later) (hwritten : token.isWritten = false)
    (hperm : places.Perm (writtenPlaces tokens before.length)) :
    places.Perm (writtenPlaces tokens (before ++ [token]).length) := by
  rwa [writtenPlaces_of_split h, hwritten, if_neg Bool.false_ne_true, List.append_nil]

theorem perm_of_written (h : tokens = before ++ token :: later) (hwritten : token.isWritten = true)
    (hperm : places.Perm (writtenPlaces tokens before.length)) :
    (before.length :: places).Perm (writtenPlaces tokens (before ++ [token]).length) := by
  rw [writtenPlaces_of_split h, if_pos hwritten]
  exact (hperm.cons _).trans (List.perm_append_singleton _ _).symm

end

end Token

namespace Postfix

open Token

/-- The places of the tokens that the elements come from. -/
structure AreSources (tokens : List Token) (elements : List Postfix) (sources : List Nat) : Prop where
  /-- Every number, name and operator is the source of one element. -/
  complete : sources.Perm (writtenPlaces tokens tokens.length)
  /-- An element is what its source becomes. -/
  faithful : sources.map (elementAt? tokens) = elements.map some
  /-- In front of a literal stands nothing whose source comes behind that of the literal. -/
  ordered : sources.Pairwise fun place place' => (∃ x, elementAt? tokens place' = some (.literal x)) → place < place'

namespace Parser

/-- What has been written, latest first, and the places of its sources. -/
structure Traced (tokens : List Token) (output : List Postfix) (outs : List Nat) : Prop where
  faithful : outs.map (elementAt? tokens) = output.map some
  ordered : outs.Pairwise fun place earlier => (∃ x, elementAt? tokens place = some (.literal x)) → earlier < place

section

variable {tokens : List Token} {output : List Postfix} {outs places : List Nat} {place : Nat} {element : Postfix}

theorem traced_nil (tokens : List Token) : Traced tokens [] [] := ⟨rfl, .nil⟩

theorem Traced.cons (h : Traced tokens output outs) (hplace : elementAt? tokens place = some element)
    (hliteral : ∀ x, element = .literal x → ∀ earlier ∈ outs, earlier < place) :
    Traced tokens (element :: output) (place :: outs) where
  faithful := by rw [List.map_cons, List.map_cons, hplace, h.faithful]
  ordered := by
    refine List.pairwise_cons.mpr ⟨fun earlier hearlier ⟨x, hx⟩ => ?_, h.ordered⟩
    exact hliteral x (Option.some.inj (hplace.symm.trans hx)) earlier hearlier

/-- What has been read last is behind all that has been written. -/
theorem Traced.literal {value : Float} (h : Traced tokens output outs)
    (hperm : (outs ++ places).Perm (writtenPlaces tokens place))
    (hplace : elementAt? tokens place = some (.literal value)) :
    Traced tokens (.literal value :: output) (place :: outs) :=
  h.cons hplace fun _ _ _ hmem => lt_of_mem_writtenPlaces (hperm.mem_iff.mp (List.mem_append_left places hmem))

theorem Traced.operator {symbol : String} (h : Traced tokens output outs)
    (hplace : elementAt? tokens place = some (.operator symbol)) :
    Traced tokens (.operator symbol :: output) (place :: outs) := h.cons hplace nofun

theorem Traced.call {name : String} {argc : Option Int} (h : Traced tokens output outs)
    (hplace : elementAt? tokens place = some (.call name argc)) :
    Traced tokens (.call name argc :: output) (place :: outs) := h.cons hplace nofun

end

/-- The arguments that a call will have whose parentheses are the innermost open ones but for `depth` others, if
`commas` have been read in them. -/
def argumentsDue (previous : Option Token.Kind) (later : List Token) (depth commas : Nat) : Nat :=
  if depth = 0 ∧ previous = some .leftParen ∧ later.head?.any (fun token => token.kind == .rightParen) then 0
  else commas + commasInside depth later + 1

/-- What waits on the stack and the places of its sources, if calls have these arguments due. -/
inductive Waits (tokens : List Token) : (Nat → Nat → Nat) → List Entry → List Frame → List Nat → Prop
  | empty (due : Nat → Nat → Nat) : Waits tokens due [] [] []
  | operator {due stack frames places} {rule : OperatorRule} {place : Nat} (offset : Int)
    (hplace : elementAt? tokens place = some (.operator rule.symbol)) (below : Waits tokens due stack frames places) :
    Waits tokens due (.operator rule offset :: stack) frames (place :: places)
  | group {due stack frames places} (offset : Int) (commas : Nat)
    (below : Waits tokens (fun depth => due (depth + 1)) stack frames places) :
    Waits tokens due (.paren offset :: stack) (⟨false, commas⟩ :: frames) places
  | call {due stack frames places} {name : String} {place commas : Nat} (offset offset' : Int)
    (hplace : elementAt? tokens place = some (.call name (some (due 0 commas : Nat))))
    (below : Waits tokens (fun depth => due (depth + 1)) stack frames places) :
    Waits tokens due (.paren offset :: .function name offset' :: stack) (⟨true, commas⟩ :: frames) (place :: places)

section

variable {tokens : List Token} {due : Nat → Nat → Nat} {stack rest : List Entry} {frames : List Frame}
  {output written : List Postfix} {outs places : List Nat}

/-- Unwinding moves operators from the stack to the output. -/
theorem Waits.unwind (h : Waits tokens due stack frames places) (hout : Traced tokens output outs)
    (hunwind : unwind output stack = .ok (written, rest)) : ∃ outs' places', Traced tokens written outs' ∧
      Waits tokens due rest frames places' ∧ (outs' ++ places').Perm (outs ++ places) ∧
      ∀ rule offset below, rest ≠ .operator rule offset :: below := by
  induction h generalizing output outs with
  | empty due =>
    cases hunwind
    exact ⟨outs, [], hout, .empty due, .refl _, by simp⟩
  | @operator due stack frames places rule place offset hplace below ih =>
    obtain ⟨outs', places', hout', hwaits, hperm, htop⟩ := ih (hout.operator hplace) hunwind
    exact ⟨outs', places', hout', hwaits, hperm.trans List.perm_middle.symm, htop⟩
  | group offset commas below ih =>
    cases hunwind
    exact ⟨outs, _, hout, .group offset commas below, .refl _, by simp⟩
  | call offset offset' hplace below ih =>
    cases hunwind
    exact ⟨outs, _, hout, .call offset offset' hplace below, .refl _, by simp⟩

theorem Waits.giveWay (h : Waits tokens due stack frames places) (hout : Traced tokens output outs)
    (incoming : OperatorRule) : ∃ outs' places', Traced tokens (giveWay incoming output stack).1 outs' ∧
      Waits tokens due (Parser.giveWay incoming output stack).2 frames places' ∧
      (outs' ++ places').Perm (outs ++ places) := by
  induction h generalizing output outs with
  | empty due => exact ⟨outs, [], hout, .empty due, .refl _⟩
  | @operator due stack frames places rule place offset hplace below ih =>
    rw [Parser.giveWay]
    split
    · obtain ⟨outs', places', hout', hwaits, hperm⟩ := ih (hout.operator hplace)
      exact ⟨outs', places', hout', hwaits, hperm.trans List.perm_middle.symm⟩
    · exact ⟨outs, _, hout, .operator offset hplace below, .refl _⟩
  | group offset commas below ih => exact ⟨outs, _, hout, .group offset commas below, .refl _⟩
  | call offset offset' hplace below ih => exact ⟨outs, _, hout, .call offset offset' hplace below, .refl _⟩

theorem Waits.flush (h : Waits tokens due stack frames places) (hout : Traced tokens output outs)
    (hflush : flush output stack = .ok written) :
    ∃ outs', Traced tokens written outs' ∧ outs'.Perm (outs ++ places) := by
  induction h generalizing output outs with
  | empty due =>
    cases hflush
    exact ⟨outs, hout, by simp⟩
  | @operator due stack frames places rule place offset hplace below ih =>
    obtain ⟨outs', hout', hperm⟩ := ih (hout.operator hplace) hflush
    exact ⟨outs', hout', hperm.trans List.perm_middle.symm⟩
  | group offset commas below ih => contradiction
  | call offset offset' hplace below ih => contradiction

end

section

variable {tokens before later : List Token} {token : Token} {state next : State}

/-- What a call has due stays the same while its arguments are read: commas that have been read are no longer to come,
and parentheses move the others in or out by one level. -/
theorem argumentsDue_written (hwritten : token.isWritten = true) (previous : Option Token.Kind) :
    argumentsDue previous (token :: later) = argumentsDue (some token.kind) later := by
  obtain ⟨kind, text, offset⟩ := token
  funext depth commas
  cases kind with
  | number | identifier | operator => simp [argumentsDue, commasInside]
  | leftParen | rightParen | comma => contradiction

theorem argumentsDue_open (hopen : token.kind = .leftParen) (previous : Option Token.Kind) :
    (fun depth => argumentsDue (some .leftParen) later (depth + 1)) = argumentsDue previous (token :: later) := by
  funext depth commas
  simp [argumentsDue, commasInside, hopen]

theorem argumentsDue_open_zero (token : Token) (later : List Token) :
    argumentsDue (some .leftParen) later 0 0 = argumentCount (token :: later) := by
  by_cases hclosed : later.head?.any (fun token => token.kind == .rightParen) = true
  · simp [argumentsDue, argumentCount, hclosed]
  · simp [argumentsDue, argumentCount, hclosed]

theorem argumentsDue_close (hclose : token.kind = .rightParen) (previous : Option Token.Kind) :
    (fun depth => argumentsDue previous (token :: later) (depth + 1)) = argumentsDue (some .rightParen) later := by
  funext depth commas
  simp [argumentsDue, commasInside, hclose]

theorem argumentsDue_close_zero (hclose : token.kind = .rightParen) (previous : Option Token.Kind) (commas : Nat) :
    argumentsDue previous (token :: later) 0 commas = if previous = some .leftParen then 0 else commas + 1 := by
  simp [argumentsDue, commasInside, hclose]

theorem argumentsDue_comma (hcomma : token.kind = .comma) (previous : Option Token.Kind) :
    (fun depth => argumentsDue previous (token :: later) (depth + 1)) =
      fun depth => argumentsDue (some .comma) later (depth + 1) := by
  funext depth commas
  simp [argumentsDue, commasInside, hcomma]

theorem argumentsDue_comma_zero (hcomma : token.kind = .comma) (previous : Option Token.Kind) (commas : Nat) :
    argumentsDue previous (token :: later) 0 commas = argumentsDue (some .comma) later 0 (commas + 1) := by
  have hcommas : commasInside 0 (token :: later) = commasInside 0 later + 1 := by
    simp [commasInside, hcomma]
  rw [argumentsDue, argumentsDue, if_neg (by simp [hcomma]), if_neg (by simp), hcommas]
  omega

end

/-- The stack waits with these sources; a function that has been named last has its parenthesis before it. -/
def State.WaitsFor (tokens later : List Token) (state : State) (places : List Nat) : Prop :=
  match state.afterFunction, state.stack with
  | false, stack => Waits tokens (argumentsDue state.previous later) stack state.frames places
  | true, .function name _ :: below => ∃ place rest, places = place :: rest ∧
      elementAt? tokens place = some (.call name (some (argumentCount later : Nat))) ∧
      Waits tokens (argumentsDue state.previous later) below state.frames rest
  | true, _ => False

/-- Behind the tokens `before` all that has been read and becomes an element is written or waits. -/
structure HasSources (tokens before later : List Token) (state : State) : Prop where
  split : tokens = before ++ later
  expects : state.afterFunction = false → state.expectOperand = asksOperand before.reverse
  sources : ∃ outs places, Traced tokens state.output outs ∧ state.WaitsFor tokens later places ∧
    (outs ++ places).Perm (writtenPlaces tokens before.length)

section

variable {tokens before later : List Token} {token : Token} {state next : State}

theorem HasSources.start (tokens : List Token) : HasSources tokens [] tokens {} where
  split := rfl
  expects _ := rfl
  sources := ⟨[], [], traced_nil tokens, .empty _, .refl _⟩

/-- A token that becomes an element is written or waits from then on, and what waits moves to the output. -/
theorem HasSources.of_turn (h : HasSources tokens before (token :: later) state)
    (hturn : Turn .standard state token next) : HasSources tokens (before ++ [token]) later next := by
  obtain ⟨hsplit, hexpects, outs, places, hout, hwaits, hperm⟩ := h
  have helement := elementAt?_of_split hsplit
  refine ⟨by rw [hsplit, List.append_assoc, List.singleton_append], fun hcall => ?_, ?_⟩
  · rw [List.reverse_append, List.reverse_singleton, List.singleton_append]
    exact hturn.asksOperand before.reverse hcall
  have hdue (hwritten : token.isWritten = true) : argumentsDue state.previous (token :: later) = _ :=
    argumentsDue_written hwritten state.previous
  cases hturn with
  | @number output stack frames expect previous text value offset hvalue =>
    have hplace : elementAt? tokens before.length = some (.literal value) := by
      simp only [helement, element?, hvalue, Option.map_some]
    rw [State.WaitsFor, hdue rfl] at hwaits
    exact ⟨_, places, hout.literal hperm hplace, hwaits, perm_of_written hsplit rfl hperm⟩
  | @function output stack frames expect previous text rule offset hrule =>
    have hplace : elementAt? tokens before.length = some (.call rule.name (some (argumentCount later : Nat))) := by
      simp only [helement, element?, hrule]
    rw [State.WaitsFor, hdue rfl] at hwaits
    refine ⟨outs, _, hout, ⟨before.length, places, rfl, hplace, hwaits⟩, ?_⟩
    exact List.perm_middle.trans (perm_of_written hsplit rfl hperm)
  | @constant output stack frames expect previous text value offset hrule hvalue =>
    have hplace : elementAt? tokens before.length = some (.literal value) := by
      simp only [helement, element?, hrule, hvalue, Option.map_some]
    rw [State.WaitsFor, hdue rfl] at hwaits
    exact ⟨_, places, hout.literal hperm hplace, hwaits, perm_of_written hsplit rfl hperm⟩
  | @openParen output stack frames expect previous call text offset =>
    cases call with
    | false =>
      rw [State.WaitsFor, ← argumentsDue_open rfl] at hwaits
      exact ⟨outs, places, hout, .group offset 0 hwaits, perm_of_unwritten hsplit rfl hperm⟩
    | true =>
      match stack, hwaits with
      | .function name offset' :: below, hwaits =>
        obtain ⟨place, rest, rfl, hplace, hbelow⟩ := hwaits
        rw [← argumentsDue_open rfl] at hbelow
        rw [← argumentsDue_open_zero] at hplace
        exact ⟨outs, _, hout, .call offset offset' hplace hbelow, perm_of_unwritten hsplit rfl hperm⟩
  | @closeGroup output stack commas frames expect previous written top below text offset hunwind =>
    obtain ⟨outs', places', hout', hwaits', hmoved, htop⟩ := Waits.unwind hwaits hout hunwind
    cases hwaits' with
    | operator offset' hplace hbelow => exact absurd rfl (htop _ offset' _)
    | group offset' commas hbelow =>
      rw [argumentsDue_close rfl] at hbelow
      exact ⟨outs', places', hout', hbelow, perm_of_unwritten hsplit rfl (hmoved.trans hperm)⟩
  | @closeCall output stack commas frames expect previous written top name place below text offset hunwind =>
    obtain ⟨outs', places', hout', hwaits', hmoved, htop⟩ := Waits.unwind hwaits hout hunwind
    cases hwaits' with
    | operator offset' hplace hbelow => exact absurd rfl (htop _ offset' _)
    | @call _ _ _ rest name place' _ offset' _ hplace hbelow =>
      rw [argumentsDue_close rfl] at hbelow
      have hcount : ((argumentsDue previous (⟨.rightParen, text, offset⟩ :: later) 0 commas : Nat) : Int) =
          if previous = some .leftParen then 0 else (commas : Int) + 1 := by
        rw [argumentsDue_close_zero rfl]
        split <;> rfl
      rw [hcount] at hplace
      have hcalled := List.perm_middle.symm.trans (hmoved.trans hperm)
      exact ⟨place' :: outs', rest, hout'.call hplace, hbelow, perm_of_unwritten hsplit rfl hcalled⟩
  | @comma output stack commas frames expect previous written top below text offset hunwind =>
    obtain ⟨outs', places', hout', hwaits', hmoved, htop⟩ := Waits.unwind hwaits hout hunwind
    cases hwaits' with
    | operator offset' hplace hbelow => exact absurd rfl (htop _ offset' _)
    | call offset' offset'' hplace hbelow =>
      rw [argumentsDue_comma rfl] at hbelow
      rw [argumentsDue_comma_zero rfl] at hplace
      exact ⟨outs', _, hout', .call offset' offset'' hplace hbelow, perm_of_unwritten hsplit rfl (hmoved.trans hperm)⟩
  | @operator output stack frames expect previous text incoming offset hrule hplace =>
    obtain ⟨op, hsymbol, rfl⟩ := Tables.exists_operator hrule
    have hplace : elementAt? tokens before.length = some (.operator op.symbol) := by
      rw [← hsymbol, helement, element?, ← hexpects rfl]
    rw [State.WaitsFor, hdue rfl] at hwaits
    obtain ⟨outs', places', hout', hwaits', hmoved⟩ := Waits.giveWay hwaits hout op.rule
    refine ⟨outs', _, hout', .operator offset hplace hwaits', ?_⟩
    exact List.perm_middle.trans (perm_of_written hsplit rfl (hmoved.trans hperm))

theorem HasSources.of_run (h : HasSources tokens before later state) (hrun : run .standard state later = .ok next) :
    HasSources tokens (before ++ later) [] next := by
  unfold run at hrun
  -- the tokens pass from those to come to those behind which the parser stands
  induction later generalizing before state with
  | nil =>
    cases hrun
    rwa [List.append_nil]
  | cons token rest ih =>
    obtain ⟨middle, hstep, hrun⟩ := bind_eq_ok hrun
    have hrest := ih (h.of_turn (turn_of_step hstep)) hrun
    rwa [List.append_assoc, List.singleton_append] at hrest

end

end Parser

/-- The literals are the values of the numbers and constants, in their order. Every number, name and operator is the
source of one element, which is what it becomes between the tokens around it, and there are no other elements. -/
theorem sources_of_ofTokens {tokens : List Token} {elements : List Postfix}
    (h : ofTokens .standard tokens = .ok elements) :
    elements.filterMap value? = tokens.filterMap (·.value? .standard) ∧
    ∃ sources, AreSources tokens elements sources := by
  refine ⟨values_of_ofTokens h, ?_⟩
  obtain ⟨⟨output, stack, frames, expect, previous, call⟩, hrun, hcall, hflush⟩ := Parser.exists_run_of_ofTokens h
  obtain rfl : call = false := hcall
  obtain ⟨-, -, outs, places, hout, hwaits, hperm⟩ := (Parser.HasSources.start tokens).of_run hrun
  obtain ⟨outs', hout', hmoved⟩ := Parser.Waits.flush hwaits hout hflush
  refine ⟨outs'.reverse, ?_, ?_, List.pairwise_reverse.mpr hout'.ordered⟩
  · exact (List.reverse_perm outs').trans (hmoved.trans hperm)
  · have hfaithful := hout'.faithful
    rw [List.map_reverse, hfaithful, List.map_reverse, List.reverse_reverse]

/-- In `-pow(pi, e)%` the minus is a sign, and the call has two arguments. -/
theorem sources_of_ofTokens_sign_before_call :
    ofTokens .standard [⟨.operator, "-", 0⟩, ⟨.identifier, "pow", 1⟩, ⟨.leftParen, "(", 4⟩, ⟨.identifier, "pi", 5⟩,
        ⟨.comma, ",", 7⟩, ⟨.identifier, "e", 9⟩, ⟨.rightParen, ")", 10⟩, ⟨.operator, "%", 11⟩] =
      .ok [.literal AngleUnit.pi, .literal 2.718281828459045, .call "pow" (some 2), .operator "%", .operator "u-"] ∧
    ∃ sources, AreSources [⟨.operator, "-", 0⟩, ⟨.identifier, "pow", 1⟩, ⟨.leftParen, "(", 4⟩, ⟨.identifier, "pi", 5⟩,
        ⟨.comma, ",", 7⟩, ⟨.identifier, "e", 9⟩, ⟨.rightParen, ")", 10⟩, ⟨.operator, "%", 11⟩]
      [.literal AngleUnit.pi, .literal 2.718281828459045, .call "pow" (some 2), .operator "%", .operator "u-"]
      sources := by
  have hparse : ofTokens .standard [⟨.operator, "-", 0⟩, ⟨.identifier, "pow", 1⟩, ⟨.leftParen, "(", 4⟩,
      ⟨.identifier, "pi", 5⟩, ⟨.comma, ",", 7⟩, ⟨.identifier, "e", 9⟩, ⟨.rightParen, ")", 10⟩, ⟨.operator, "%", 11⟩] =
      .ok [.literal AngleUnit.pi, .literal 2.718281828459045, .call "pow" (some 2), .operator "%", .operator "u-"] := by
    rfl
  exact ⟨hparse, (sources_of_ofTokens hparse).2⟩

end Postfix

end SciCalc
