import SciCalc.Proofs.InfixTexts
import SciCalc.Proofs.Offences
import SciCalc.Proofs.StackAndTree

/-!
# What an evaluation can end with

The elements that a text compiles to stand in the tables and carry what the machine asks of them. So a text has a
finite value, or one of its own faults stops it while it is read, parsed or evaluated.
-/

namespace SciCalc

namespace Postfix

/-- A literal, an operator of the table, or a call of a function of the table with a number of arguments. -/
inductive IsCompiled : Postfix → Prop
  | literal (value : Float) : IsCompiled (.literal value)
  | operator (op : Operator) : IsCompiled (.operator op.symbol)
  | call (f : Function) (argc : Int) : IsCompiled (.call f.name (some argc))

namespace Parser

def Entry.IsListed : Entry → Prop
  | operator rule _ => ∃ op : Operator, rule = op.rule
  | function name _ => ∃ f : Function, name = f.name
  | paren _ => True

/-- All that has been written and all that waits comes from the tables. -/
structure FromTables (output : List Postfix) (stack : List Entry) : Prop where
  written : ∀ element ∈ output, element.IsCompiled
  waiting : ∀ entry ∈ stack, entry.IsListed

section

variable {output written : List Postfix} {stack rest : List Entry}

theorem FromTables.write (h : FromTables output stack) {element : Postfix} (helement : element.IsCompiled) :
    FromTables (element :: output) stack where
  written := List.forall_mem_cons.mpr ⟨helement, h.written⟩
  waiting := h.waiting

theorem FromTables.wait (h : FromTables output stack) {entry : Entry} (hentry : entry.IsListed) :
    FromTables output (entry :: stack) where
  written := h.written
  waiting := List.forall_mem_cons.mpr ⟨hentry, h.waiting⟩

theorem FromTables.pop {entry : Entry} (h : FromTables output (entry :: stack)) : FromTables output stack where
  written := h.written
  waiting := (List.forall_mem_cons.mp h.waiting).2

theorem FromTables.emit {rule : OperatorRule} {offset : Int}
    (h : FromTables output (.operator rule offset :: stack)) :
    FromTables (.operator rule.symbol :: output) stack := by
  obtain ⟨op, rfl⟩ : ∃ op : Operator, rule = op.rule := (List.forall_mem_cons.mp h.waiting).1
  exact h.pop.write (.operator op)

theorem FromTables.unwind (h : FromTables output stack) (hunwind : unwind output stack = .ok (written, rest)) :
    FromTables written rest := by
  induction stack generalizing output with
  | nil =>
    cases hunwind
    exact h
  | cons entry below ih =>
    cases entry with
    | operator rule offset => exact ih h.emit hunwind
    | function name offset => contradiction
    | paren offset =>
      cases hunwind
      exact h

theorem FromTables.giveWay (h : FromTables output stack) (incoming : OperatorRule) :
    FromTables (giveWay incoming output stack).1 (giveWay incoming output stack).2 := by
  induction stack generalizing output with
  | nil => exact h
  | cons entry below ih =>
    cases entry with
    | operator rule offset =>
      rw [Parser.giveWay]
      split
      · exact ih h.emit
      · exact h
    | function name offset => exact h
    | paren offset => exact h

theorem FromTables.flush (h : FromTables output stack) (hflush : flush output stack = .ok written) :
    ∀ element ∈ written, element.IsCompiled := by
  induction stack generalizing output with
  | nil =>
    cases hflush
    exact h.written
  | cons entry below ih =>
    cases entry with
    | operator rule offset => exact ih h.emit hflush
    | function name offset => contradiction
    | paren offset => contradiction

end

theorem Turn.fromTables {state next : State} {token : Token} (hturn : Turn .standard state token next)
    (h : FromTables state.output state.stack) : FromTables next.output next.stack := by
  cases hturn with
  | number offset hvalue => exact h.write (.literal _)
  | function offset hrule =>
    obtain ⟨f, rfl⟩ := Tables.exists_function hrule
    exact h.wait ⟨f, rfl⟩
  | constant offset hrule hvalue => exact h.write (.literal _)
  | openParen call text offset => exact h.wait trivial
  | closeGroup text offset hunwind => exact (h.unwind hunwind).pop
  | closeCall text offset hunwind =>
    have hbelow := (h.unwind hunwind).pop
    obtain ⟨f, rfl⟩ := (List.forall_mem_cons.mp hbelow.waiting).1
    exact hbelow.pop.write (.call f _)
  | comma text offset hunwind => exact h.unwind hunwind
  | operator offset hrule hplace =>
    obtain ⟨op, -, rfl⟩ := Tables.exists_operator hrule
    exact (h.giveWay _).wait ⟨op, rfl⟩

theorem fromTables_of_run {tokens : List Token} {state final : State}
    (hrun : run .standard state tokens = .ok final) (h : FromTables state.output state.stack) :
    FromTables final.output final.stack :=
  @kept_by_run .standard (fun state => FromTables state.output state.stack) (fun hturn => hturn.fromTables) _ _ _ hrun h

end Parser

theorem isCompiled_of_ofTokens {tokens : List Token} {elements : List Postfix}
    (h : ofTokens .standard tokens = .ok elements) : ∀ element ∈ elements, element.IsCompiled := by
  obtain ⟨final, hrun, -, hflush⟩ := Parser.exists_run_of_ofTokens h
  have htables := Parser.fromTables_of_run hrun ⟨by simp, by simp⟩
  intro element helement
  exact htables.flush hflush element (List.mem_reverse.mpr helement)

end Postfix

namespace Token

theorem stage_of_lexFrom (offset : Nat) (s : List Char) :
    ∀ fault, lexFrom offset s = .error fault → fault.stage = .lex := by
  fun_induction lexFrom offset s with
  | case1 offset =>
    intro fault h
    contradiction
  | case2 offset c tail hblank ih => exact ih
  | case3 offset c tail hblank text rest hsplit ih => exact fun fault h => ih fault (map_eq_error h)
  | case4 offset c tail hblank hsplit hstart text ih => exact fun fault h => ih fault (map_eq_error h)
  | case5 offset c tail hblank hsplit hstart kind hkind ih => exact fun fault h => ih fault (map_eq_error h)
  | case6 =>
    intro fault h
    cases h
    rfl

theorem stage_of_offence? {earlier : List Token} {token : Token} {fault : Fault}
    (h : offence? earlier token = some fault) : fault.stage = .parse := by
  unfold offence? at h
  split at h
  · contradiction
  · cases h
    rfl
  · split at h
    · contradiction
    · cases h
      rfl
  · split at h
    · contradiction
    · cases h
      rfl
  · split at h
    · contradiction
    · cases h
      rfl
  · split at h
    · cases h
      rfl
    · contradiction
  · contradiction
  · contradiction

theorem stage_of_ending? {earlier : List Token} {fault : Fault} (h : ending? earlier = some fault) :
    fault.stage = .parse := by
  unfold ending? at h
  split at h
  · cases h
    rfl
  · obtain ⟨found, -, rfl⟩ := Option.map_eq_some_iff.mp h
    rfl

end Token

namespace Fault

/-- A fault that the evaluation of a compiled text may find. -/
structure OfEvaluation (fault : Fault) : Prop where
  stage : fault.stage = .eval
  function : fault.kind ≠ .unknownFunction
  operator : fault.kind ≠ .unknownOperator

theorem ofEvaluation_of_kind (kind : FaultKind)
    (hkind : kind.stage = .eval ∧ kind ≠ .unknownFunction ∧ kind ≠ .unknownOperator) {fault : Fault}
    (h : fault.kind = kind) : fault.OfEvaluation := by
  subst h
  exact ⟨hkind.1, hkind.2.1, hkind.2.2⟩

theorem IsArithmetic.ofEvaluation {fault : Fault} (h : fault.IsArithmetic) : fault.OfEvaluation := by
  rcases h with h | h
  · exact ofEvaluation_of_kind .divisionByZero (by decide) h
  · exact ofEvaluation_of_kind .domain (by decide) h

end Fault

namespace Postfix

/-- The number of operands that the tables tell for an element. A literal takes none. -/
def operands? : Postfix → Option Int
  | literal _ => some 0
  | operator symbol => (Tables.standard.operator? symbol).map OperatorRule.arity
  | call name _ => (Tables.standard.function? name).map FunctionRule.arity
  | mark _ => none

/-- The element puts one value in the place of so many operands as the tables tell, or it is at fault. -/
def Settles (unit : AngleUnit) (stack : List Float) (element : Postfix) : Prop :=
  (∃ operands rest value, stack = operands ++ rest ∧ element.operands? = some (operands.length : Int) ∧
    step unit stack element = .ok (value :: rest)) ∨
  ∃ fault, fault.OfEvaluation ∧ step unit stack element = .error fault

/-- An operation on operands that may be at fault. -/
theorem settles_of_bind {unit : AngleUnit} (operands : List Float) {rest : List Float} {element : Postfix}
    {attempt : Except Fault Float} (hoperands : element.operands? = some (operands.length : Int))
    (hstep : step unit (operands ++ rest) element = attempt >>= fun value => .ok (value :: rest))
    (hfault : ∀ fault, attempt = .error fault → fault.IsArithmetic) :
    Settles unit (operands ++ rest) element := by
  cases attempt with
  | ok value => exact Or.inl ⟨operands, rest, value, rfl, hoperands, hstep⟩
  | error fault => exact Or.inr ⟨fault, (hfault fault rfl).ofEvaluation, hstep⟩

theorem operands?_operator (op : Operator) : (operator op.symbol).operands? = some (op.arity : Int) := by
  rw [operands?, Tables.operator?_symbol]
  rfl

theorem operands?_call (f : Function) (argc : Option Int) :
    (call f.name argc).operands? = some (f.arity : Int) := by
  rw [operands?, Tables.function?_name]
  rfl

theorem settles_operator (unit : AngleUnit) (op : Operator) (stack : List Float) :
    Settles unit stack (.operator op.symbol) := by
  have hoperands := operands?_operator op
  have hlow (h : step unit stack (.operator op.symbol) =
      .error (.stackUnderflow op.symbol op.arity stack.length)) : Settles unit stack (.operator op.symbol) :=
    Or.inr ⟨.stackUnderflow op.symbol op.arity stack.length,
      Fault.ofEvaluation_of_kind .stackUnderflow (by decide) rfl, h⟩
  cases op with
  | unary op =>
    rcases stack with _ | ⟨x, rest⟩
    · exact hlow (by simp only [step, applyOperator, Operator.ofSymbol?_symbol])
    · exact Or.inl ⟨[x], rest, op.apply x, rfl, hoperands, step_unary unit op x rest⟩
  | binary op =>
    rcases stack with _ | ⟨y, _ | ⟨x, rest⟩⟩
    · exact hlow (by simp only [step, applyOperator, Operator.ofSymbol?_symbol])
    · exact hlow (by simp only [step, applyOperator, Operator.ofSymbol?_symbol])
    · exact settles_of_bind [y, x] hoperands (step_binary unit op x y rest)
        fun fault h => BinaryOperator.apply_error_isArithmetic h

theorem settles_call (unit : AngleUnit) (f : Function) (argc : Int) (stack : List Float) :
    Settles unit stack (.call f.name (some argc)) := by
  have hoperands := operands?_call f (some argc)
  have hmismatch (received : Int) (h : step unit stack (.call f.name (some argc)) =
      .error (.arityMismatch f.name f.arity (some received))) :
      Settles unit stack (.call f.name (some argc)) :=
    Or.inr ⟨.arityMismatch f.name f.arity (some received),
      Fault.ofEvaluation_of_kind .arityMismatch (by decide) rfl, h⟩
  by_cases hargc : argc = f.arity
  · subst hargc
    cases f with
    | unary f =>
      rcases stack with _ | ⟨x, rest⟩
      · refine hmismatch 0 ?_
        simp only [step, applyFunction, Function.ofName?_name, Option.getD_some, bne_self_eq_false]
        rfl
      · exact settles_of_bind [x] hoperands (step_apply unit f x rest)
          fun fault h => UnaryFunction.apply_error_isArithmetic h
    | power =>
      rcases stack with _ | ⟨y, _ | ⟨x, rest⟩⟩
      · refine hmismatch 0 ?_
        simp only [step, applyFunction, Function.ofName?_name, Option.getD_some, bne_self_eq_false]
        rfl
      · refine hmismatch 1 ?_
        simp only [step, applyFunction, Function.ofName?_name, Option.getD_some, bne_self_eq_false]
        rfl
      · exact settles_of_bind [y, x] hoperands (step_power unit x y rest)
          fun fault h => BinaryOperator.apply_error_isArithmetic h
  · refine hmismatch argc ?_
    simp only [step, applyFunction, Function.ofName?_name, Option.getD_some, bne_iff_ne.mpr hargc, if_true]

theorem IsCompiled.settles {element : Postfix} (h : element.IsCompiled) (unit : AngleUnit)
    (stack : List Float) : Settles unit stack element := by
  cases h with
  | literal value => exact Or.inl ⟨[], stack, value, rfl, rfl, rfl⟩
  | operator op => exact settles_operator unit op stack
  | call f argc => exact settles_call unit f argc stack

theorem run_of_isCompiled (unit : AngleUnit) {elements : List Postfix}
    (h : ∀ element ∈ elements, element.IsCompiled) (stack : List Float) :
    (∃ final, run unit stack elements = .ok final) ∨
    ∃ fault, fault.OfEvaluation ∧ run unit stack elements = .error fault := by
  unfold run
  induction elements generalizing stack with
  | nil => exact Or.inl ⟨stack, rfl⟩
  | cons element rest ih =>
    obtain ⟨helement, hrest⟩ := List.forall_mem_cons.mp h
    rw [List.foldlM_cons]
    rcases helement.settles unit stack with ⟨operands, below, value, -, -, hstep⟩ | ⟨fault, hfault, hstep⟩
    · rw [hstep, ok_bind]
      exact ih hrest _
    · rw [hstep, error_bind]
      exact Or.inr ⟨fault, hfault, rfl⟩

theorem finiteValue_of_isCompiled (unit : AngleUnit) {elements : List Postfix}
    (h : ∀ element ∈ elements, element.IsCompiled) :
    (∃ value, finiteValue unit elements = .ok value ∧ value.isFinite = true) ∨
    ∃ fault, fault.OfEvaluation ∧ finiteValue unit elements = .error fault := by
  rw [finiteValue, evaluate]
  rcases run_of_isCompiled unit h [] with ⟨final, hrun⟩ | ⟨fault, hfault, hrun⟩
  · rw [hrun, ok_bind]
    rcases final with _ | ⟨value, _ | ⟨y, rest⟩⟩
    · exact Or.inr ⟨.malformed 0, Fault.ofEvaluation_of_kind .malformed (by decide) rfl, rfl⟩
    · by_cases hfinite : value.isFinite = true
      · exact Or.inl ⟨value, if_pos hfinite, hfinite⟩
      · exact Or.inr ⟨.nonFinite value, Fault.ofEvaluation_of_kind .nonFinite (by decide) rfl, if_neg hfinite⟩
    · exact Or.inr ⟨.malformed (value :: y :: rest).length,
        Fault.ofEvaluation_of_kind .malformed (by decide) rfl, rfl⟩
  · rw [hrun, error_bind, error_bind]
    exact Or.inr ⟨fault, hfault, rfl⟩

end Postfix

namespace Expression

open Postfix Token

theorem ofTokens_cases {tokens : List Token} (hspelled : ∀ token ∈ tokens, token.IsSpelled) :
    (∃ elements, Postfix.ofTokens .standard tokens = .ok elements) ∨
    ∃ fault, fault.stage = .parse ∧ Postfix.ofTokens .standard tokens = .error (.fault fault) := by
  rcases isSound_or_exists_offence [] tokens with
    hsound | ⟨before, token, after, fault, htokens, hsound, hfault⟩
  · rcases ofTokens_of_isSound hspelled hsound with ⟨fault, hfault, herror⟩ | ⟨-, helements⟩
    · exact Or.inr ⟨fault, stage_of_ending? hfault, herror⟩
    · exact Or.inl helements
  · rw [List.append_nil] at hfault
    exact Or.inr ⟨fault, stage_of_offence? hfault, ofTokens_of_offence hspelled htokens hsound hfault⟩

/-- A text compiles to elements of the tables, or it has a fault of reading or of parsing. -/
theorem compile_cases (text : String) :
    (∃ elements, compile text = .ok elements ∧ ∀ element ∈ elements, element.IsCompiled) ∨
    ∃ fault, (fault.stage = .lex ∨ fault.stage = .parse) ∧ compile text = .error (.fault fault) := by
  cases hlex : lex text with
  | error fault =>
    refine Or.inr ⟨fault, Or.inl (stage_of_lexFrom 0 text.toList fault hlex), ?_⟩
    simp only [compile, hlex]
    rfl
  | ok tokens =>
    by_cases hne : tokens = []
    · subst hne
      refine Or.inr ⟨.emptyExpression, Or.inl rfl, ?_⟩
      simp only [compile, hlex]
      rfl
    · rw [compile_of_lex hlex hne]
      rcases ofTokens_cases (isSpelled_of_lex hlex) with ⟨elements, h⟩ | ⟨fault, hstage, h⟩
      · exact Or.inl ⟨elements, h, isCompiled_of_ofTokens h⟩
      · exact Or.inr ⟨fault, Or.inr hstage, h⟩

theorem evaluate_error_of_compile {text : String} {elements : List Postfix} {unit : AngleUnit} {fault : Fault}
    (hcompile : compile text = .ok elements) (hfault : Postfix.finiteValue unit elements = .error fault) :
    evaluate text unit = .error (.fault fault) := by
  rw [evaluate, hcompile, ok_bind, hfault]
  rfl

theorem evaluateIn_eq {given : Scalar} {unit : AngleUnit} (h : AngleUnit.ofScalar given = .ok unit)
    (text : String) : evaluateIn text given = evaluate text unit := by
  rw [evaluateIn, evaluate, h]
  rfl

/-- Whatever a text is, its evaluation ends with a finite value, with a fault of reading or parsing that keeps it from
being compiled, or with a fault of evaluation that is no unknown operator or function. What is compiled stands in the
tables, and every element gets the operands that the tables tell. -/
theorem evaluate_ends {given : Scalar} {unit : AngleUnit} (hunit : AngleUnit.ofScalar given = .ok unit)
    (text : String) :
    evaluateIn text given = evaluate text unit ∧
    ((∃ value, evaluate text unit = .ok value ∧ value.isFinite = true) ∨
      (∃ fault, evaluate text unit = .error (.fault fault) ∧ (fault.stage = .lex ∨ fault.stage = .parse) ∧
        compile text = .error (.fault fault)) ∨
      ∃ fault elements, evaluate text unit = .error (.fault fault) ∧ fault.OfEvaluation ∧
        compile text = .ok elements) ∧
    ∀ elements, compile text = .ok elements → ∀ element ∈ elements,
      element.IsCompiled ∧ ∀ stack, Settles unit stack element := by
  refine ⟨evaluateIn_eq hunit text, ?_, ?_⟩
  · rcases compile_cases text with ⟨elements, hcompile, helements⟩ | ⟨fault, hstage, hcompile⟩
    · rcases finiteValue_of_isCompiled unit helements with ⟨value, hvalue, hfinite⟩ | ⟨fault, hfault, hvalue⟩
      · exact Or.inl ⟨value, evaluate_of_compile hcompile hvalue, hfinite⟩
      · exact Or.inr (Or.inr ⟨fault, elements, evaluate_error_of_compile hcompile hvalue, hfault, hcompile⟩)
    · have hevaluate : evaluate text unit = .error (.fault fault) := by
        rw [evaluate, hcompile, error_bind]
      exact Or.inr (Or.inl ⟨fault, hevaluate, hstage, hcompile⟩)
  · intro elements hcompile element helement
    rcases compile_cases text with ⟨elements', hcompile', helements⟩ | ⟨fault, -, hcompile'⟩
    · obtain rfl : elements = elements' := Except.ok.inj (hcompile.symm.trans hcompile')
      exact ⟨helements element helement, (helements element helement).settles unit⟩
    · cases hcompile.symm.trans hcompile'

/-- The unit may be named in any case and between blanks, and a percent sign without operand is a fault of parsing. -/
theorem evaluate_ends_in_degrees :
    AngleUnit.ofScalar (.text " DEG ") = .ok .degrees ∧
    evaluateIn "sin(%)" (.text " DEG ") = evaluate "sin(%)" .degrees ∧
    ((∃ value, evaluate "sin(%)" .degrees = .ok value ∧ value.isFinite = true) ∨
      (∃ fault, evaluate "sin(%)" .degrees = .error (.fault fault) ∧
        (fault.stage = .lex ∨ fault.stage = .parse) ∧ compile "sin(%)" = .error (.fault fault)) ∨
      ∃ fault elements, evaluate "sin(%)" .degrees = .error (.fault fault) ∧ fault.OfEvaluation ∧
        compile "sin(%)" = .ok elements) := by
  have hunit : AngleUnit.ofScalar (.text " DEG ") = .ok .degrees := by rfl
  have hends := evaluate_ends hunit "sin(%)"
  exact ⟨hunit, hends.1, hends.2.1⟩

end Expression

end SciCalc
