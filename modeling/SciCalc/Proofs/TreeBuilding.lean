import SciCalc.Proofs.Attempt
import SciCalc.Proofs.Names
import SciCalc.Tree.Builder

/-!
# Building trees

What an element does to the stack of trees. A tree that is built of a postfix expression lists that expression,
and the tree is built again of its listing.
-/

namespace SciCalc.Tree

/-- What one element does to a stack of trees when it is not a fault. -/
inductive Grows : List Tree → Postfix → List Tree → Prop
  | number (x : Float) (rest : List Tree) : Grows rest (.literal x) (number x :: rest)
  | unary (op : UnaryOperator) (t : Tree) (rest : List Tree) :
    Grows (t :: rest) (.operator (Operator.unary op).symbol) (unary op t :: rest)
  | binary (op : BinaryOperator) (t u : Tree) (rest : List Tree) :
    Grows (u :: t :: rest) (.operator (Operator.binary op).symbol) (binary op t u :: rest)
  | apply (f : UnaryFunction) (t : Tree) (rest : List Tree) :
    Grows (t :: rest) (.call (Function.unary f).name (some 1)) (apply f t :: rest)
  | power (t u : Tree) (rest : List Tree) :
    Grows (u :: t :: rest) (.call Function.power.name (some 2)) (power t u :: rest)

theorem grows_of_growOperator {symbol : String} {trees grown : List Tree}
    (h : growOperator symbol trees = .ok grown) : Grows trees (.operator symbol) grown := by
  unfold growOperator at h
  split at h
  · contradiction
  · rename_i op hop
    obtain rfl := Operator.ofSymbol?_eq_some.mp hop
    split at h
    · cases h
      exact .unary _ _ _
    · cases h
      exact .binary _ _ _ _
    · contradiction

theorem grows_of_growFunction {name : String} {argc : Option Int} {trees grown : List Tree}
    (h : growFunction name argc trees = .ok grown) : Grows trees (.call name argc) grown := by
  unfold growFunction at h
  split at h
  · contradiction
  · rename_i f hf
    obtain rfl := Function.ofName?_eq_some.mp hf
    split at h
    · contradiction
    · rename_i hargc
      obtain rfl : argc = some (f.arity : Int) := by simpa using hargc
      split at h
      · cases h
        exact .apply _ _ _
      · cases h
        exact .power _ _ _
      · contradiction

/-- A mark tells no number of arguments, so it is never taken for a call. -/
theorem growFunction_none_ne_ok (name : String) (trees grown : List Tree) :
    growFunction name none trees ≠ .ok grown := by
  intro h
  unfold growFunction at h
  split at h <;> contradiction

theorem grows_of_grow {trees grown : List Tree} {element : Postfix}
    (h : grow trees element = .ok grown) : Grows trees element grown := by
  cases element with
  | literal x =>
    cases h
    exact .number x trees
  | operator symbol => exact grows_of_growOperator h
  | call name argc => exact grows_of_growFunction h
  | mark name => exact absurd h (growFunction_none_ne_ok name trees grown)

/-- The postfix forms of a stack of trees, from the bottom of the stack to its top. -/
def listing (trees : List Tree) : List Postfix := trees.reverse.flatMap toPostfix

theorem listing_of_grows {trees grown : List Tree} {element : Postfix}
    (h : Grows trees element grown) : listing grown = listing trees ++ [element] := by
  cases h <;> simp [listing, toPostfix, Function.name]

theorem listing_of_foldlM_grow {trees grown : List Tree} {elements : List Postfix}
    (h : elements.foldlM grow trees = .ok grown) : listing grown = listing trees ++ elements := by
  induction elements generalizing trees with
  | nil =>
    obtain rfl : trees = grown := Except.ok.inj h
    exact (List.append_nil _).symm
  | cons element rest ih =>
    rw [List.foldlM_cons] at h
    obtain ⟨next, hn, h⟩ := bind_eq_ok h
    rw [ih h, listing_of_grows (grows_of_grow hn), List.append_assoc, List.singleton_append]

theorem foldlM_grow_of_ofPostfix {elements : List Postfix} {tree : Tree}
    (h : ofPostfix elements = .ok tree) : elements.foldlM grow [] = .ok [tree] := by
  obtain ⟨grown, hgrown, h⟩ := bind_eq_ok h
  split at h
  · cases h
    exact hgrown
  · contradiction

/-- A tree that is built of a postfix expression lists just that expression. -/
theorem toPostfix_of_ofPostfix {elements : List Postfix} {tree : Tree}
    (h : ofPostfix elements = .ok tree) : tree.toPostfix = elements := by
  simpa [listing] using listing_of_foldlM_grow (foldlM_grow_of_ofPostfix h)

/-- The converse of `grows_of_grow`. -/
theorem Grows.grow {trees grown : List Tree} {element : Postfix} (h : Grows trees element grown) :
    grow trees element = .ok grown := by
  cases h with
  | number x => rfl
  | unary op t rest => simp only [Tree.grow, growOperator, Operator.ofSymbol?_symbol]
  | binary op t u rest => simp only [Tree.grow, growOperator, Operator.ofSymbol?_symbol]
  | apply f t rest =>
    simp only [Tree.grow, growFunction, Function.ofName?_name]
    rfl
  | power t u rest =>
    simp only [Tree.grow, growFunction, Function.ofName?_name]
    rfl

/-- The listing of a tree puts that tree on the stack, whatever the stack holds. -/
theorem foldlM_grow_toPostfix (tree : Tree) (stack : List Tree) :
    tree.toPostfix.foldlM grow stack = .ok (tree :: stack) := by
  have hlast {trees grown : List Tree} {element : Postfix} (h : Grows trees element grown) :
      [element].foldlM Tree.grow trees = .ok grown := by
    rw [List.foldlM_cons, h.grow]
    rfl
  induction tree generalizing stack with
  | number x => exact hlast (.number x stack)
  | unary op operand ih => exact (foldlM_append_ok (ih stack)).trans (hlast (.unary op operand stack))
  | binary op left right ihl ihr =>
    have hoperands := (foldlM_append_ok (ihl stack)).trans (ihr (left :: stack))
    exact (foldlM_append_ok hoperands).trans (hlast (.binary op left right stack))
  | apply f argument ih => exact (foldlM_append_ok (ih stack)).trans (hlast (.apply f argument stack))
  | power base exponent ihb ihe =>
    have hoperands := (foldlM_append_ok (ihb stack)).trans (ihe (base :: stack))
    exact (foldlM_append_ok hoperands).trans (hlast (.power base exponent stack))

theorem ofPostfix_toPostfix (tree : Tree) : ofPostfix tree.toPostfix = .ok tree := by
  rw [ofPostfix, foldlM_grow_toPostfix tree []]
  rfl

end SciCalc.Tree
