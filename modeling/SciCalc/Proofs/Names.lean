import SciCalc.Tables

/-!
# Names and symbols

An operator is found by its symbol and by no other text, a function by its name and by no other text. An
identifier is looked up in the tables.
-/

namespace SciCalc

namespace Operator

theorem ofSymbol?_symbol (op : Operator) : ofSymbol? op.symbol = some op := by
  rcases op with op | op <;> cases op <;> rfl

theorem ofSymbol?_eq_some {symbol : String} {op : Operator} :
    ofSymbol? symbol = some op ↔ symbol = op.symbol := by
  constructor
  · intro h
    have hfound := List.find?_some h
    exact (beq_iff_eq.mp hfound).symm
  · rintro rfl
    exact ofSymbol?_symbol op

end Operator

namespace Function

theorem ofName?_name (f : Function) : ofName? f.name = some f := by
  rcases f with f | _
  · cases f <;> rfl
  · rfl

theorem ofName?_eq_some {name : String} {f : Function} : ofName? name = some f ↔ name = f.name := by
  constructor
  · intro h
    have hfound := List.find?_some h
    exact (beq_iff_eq.mp hfound).symm
  · rintro rfl
    exact ofName?_name f

end Function

/-- What is looked up stands in the table under its name. -/
theorem Tables.mem_of_lookup {α : Type} {entries : List (String × α)} {name : String} {entry : α}
    (h : entries.reverse.lookup name = some entry) : (name, entry) ∈ entries := by
  obtain ⟨before, behind, hsplit, -⟩ := List.lookup_eq_some_iff.mp h
  have hmem : (name, entry) ∈ entries.reverse := by
    rw [hsplit]
    exact List.mem_append_right _ List.mem_cons_self
  exact List.mem_reverse.mp hmem

theorem Tables.function?_name (f : Function) : standard.function? f.name = some f.rule := by
  rcases f with f | _
  · cases f <;> rfl
  · rfl

theorem Tables.exists_operator {symbol : String} {rule : OperatorRule}
    (h : standard.operator? symbol = some rule) : ∃ op : Operator, symbol = op.symbol ∧ rule = op.rule := by
  have hmem : (symbol, rule) ∈ standardOperators := mem_of_lookup h
  obtain ⟨op, -, hop⟩ := List.mem_map.mp hmem
  cases hop
  exact ⟨op, rfl, rfl⟩

theorem Tables.exists_function {text : String} {rule : FunctionRule}
    (h : standard.function? text = some rule) : ∃ f : Function, rule = f.rule := by
  have hmem : (Text.lower text, rule) ∈ standardFunctions := mem_of_lookup h
  obtain ⟨f, -, hf⟩ := List.mem_map.mp hmem
  exact ⟨f, (Prod.mk.inj hf).2.symm⟩

end SciCalc
