import SciCalc.Proofs.LexerSteps
import SciCalc.Proofs.ParserSteps
import SciCalc.Proofs.PrintedNumbers
import SciCalc.Tree.Basic

/-!
# Printed trees

Every operator is printed between parentheses with its operands, so the tokens of a printed tree are those of an
operand. The post-order of this operand is that of the tree, but for the sign of a negative number, which is
read as an operator.
-/

namespace SciCalc

open Token

/-- A negative literal is its absolute value and a minus behind it. -/
def Postfix.signApart : Postfix → List Postfix
  | literal x =>
    if Decimal.isNegative x then [literal x.abs, operator Operator.negSymbol] else [literal x]
  | element => [element]

/-- Wherever the text stands, its tokens are those of an operand with the post-order. -/
def Infix.IsOperandText (text : List Char) (postorder : List Postfix) : Prop :=
  ∀ offset, ∃ phrase : Infix .operand, phrase.postorder = postorder ∧ Spells offset text phrase.tokens

namespace Infix

/-- An operand as a phrase of any level above it. -/
def toSigned (phrase : Infix .operand) : Infix .signed := .unsigned (.base (.operand phrase))

def toProduct (phrase : Infix .operand) : Infix .product := .signed phrase.toSigned

def toSum (phrase : Infix .operand) : Infix .sum := .product phrase.toProduct

@[simp] theorem tokens_toSigned (phrase : Infix .operand) : phrase.toSigned.tokens = phrase.tokens := rfl

@[simp] theorem tokens_toProduct (phrase : Infix .operand) : phrase.toProduct.tokens = phrase.tokens := rfl

@[simp] theorem tokens_toSum (phrase : Infix .operand) : phrase.toSum.tokens = phrase.tokens := rfl

@[simp] theorem postorder_toSigned (phrase : Infix .operand) :
    phrase.toSigned.postorder = phrase.postorder := rfl

@[simp] theorem postorder_toProduct (phrase : Infix .operand) :
    phrase.toProduct.postorder = phrase.postorder := rfl

@[simp] theorem postorder_toSum (phrase : Infix .operand) : phrase.toSum.postorder = phrase.postorder := rfl

theorem exists_binary (op : BinaryOperator) (left right : Infix .operand) (offset : Int) :
    ∃ phrase : Infix .sum,
      phrase.tokens = left.tokens ++ ⟨.operator, (Operator.binary op).symbol, offset⟩ :: right.tokens ∧
      phrase.postorder = left.postorder ++ right.postorder ++ [.operator (Operator.binary op).symbol] := by
  cases op with
  | add => exact ⟨.sum left.toSum .add (Or.inl rfl) offset right.toProduct, rfl, rfl⟩
  | sub => exact ⟨.sum left.toSum .sub (Or.inr rfl) offset right.toProduct, rfl, rfl⟩
  | mul => exact ⟨.product (.times left.toProduct .mul (Or.inl rfl) offset right.toSigned), rfl, rfl⟩
  | div => exact ⟨.product (.times left.toProduct .div (Or.inr rfl) offset right.toSigned), rfl, rfl⟩
  | pow =>
    exact ⟨.product (.signed (.unsigned (.raised (.operand left) offset right.toSigned))), rfl, rfl⟩

variable {text text' : List Char} {postorder postorder' : List Postfix}

theorem isOperandText_number (h : Token.IsNumeral text) :
    IsOperandText text [.literal (Decimal.Digits.toFloat false (.ofNumeral text))] := by
  intro offset
  have htext : Token.IsNumeral (String.ofList text).toList := by rwa [String.toList_ofList]
  refine ⟨.number (String.ofList text) htext offset, ?_, spells_numeral h offset⟩
  rw [Infix.postorder, String.toList_ofList]

theorem IsOperandText.group (h : IsOperandText text postorder) : IsOperandText ('(' :: (text ++ [')'])) postorder := by
  intro offset
  obtain ⟨phrase, rfl, htext⟩ := h (offset + 1)
  have hclose := spells_rightParen (offset + 1 + text.length)
  have hspells := (htext.append rfl hclose).leftParen
  refine ⟨.group offset phrase.toSum (offset + 1 + text.length : Nat), rfl, ?_⟩
  simpa [tokens] using hspells

theorem IsOperandText.minus (h : IsOperandText text postorder) :
    IsOperandText ('(' :: '-' :: (text ++ [')'])) (postorder ++ [.operator Operator.negSymbol]) := by
  intro offset
  obtain ⟨phrase, rfl, htext⟩ := h (offset + 1 + 1)
  have hclose := spells_rightParen (offset + 1 + 1 + text.length)
  have hspells := (htext.append rfl hclose).minus.leftParen
  refine ⟨.group offset (.product (.signed (.minus (offset + 1 : Nat) phrase.toSigned)))
    (offset + 1 + 1 + text.length : Nat), ?_, ?_⟩
  · simp [Infix.postorder]
  · simpa [tokens] using hspells

theorem IsOperandText.percent (h : IsOperandText text postorder) :
    IsOperandText ('(' :: (text ++ ['%', ')'])) (postorder ++ [.operator "%"]) := by
  intro offset
  obtain ⟨phrase, rfl, htext⟩ := h (offset + 1)
  have hclose := spells_rightParen (offset + 1 + text.length + 1)
  have hspells := (htext.append rfl hclose.percent).leftParen
  refine ⟨.group offset (.product (.signed (.unsigned (.base
    (.percent (.operand phrase) (offset + 1 + text.length : Nat))))))
    (offset + 1 + text.length + 1 : Nat), ?_, ?_⟩
  · simp [Infix.postorder]
  · simpa [tokens] using hspells

theorem IsOperandText.binary (h : IsOperandText text postorder) (h' : IsOperandText text' postorder')
    (op : BinaryOperator) :
    IsOperandText ('(' :: (text ++ ((Operator.binary op).symbol.toList ++ (text' ++ [')']))))
      (postorder ++ postorder' ++ [.operator (Operator.binary op).symbol]) := by
  intro offset
  obtain ⟨c, hsymbol, hc, hkind, hc'⟩ := exists_sign_binary op
  obtain ⟨left, rfl, htext⟩ := h (offset + 1)
  obtain ⟨right, rfl, htext'⟩ := h' (offset + 1 + text.length + 1)
  obtain ⟨phrase, htokens, hpostorder⟩ := exists_binary op left right (offset + 1 + text.length : Nat)
  have hclose := spells_rightParen (offset + 1 + text.length + 1 + text'.length)
  have hbehind := (htext'.append rfl hclose).sign hkind hc'
  have hspells := (htext.append hc hbehind).leftParen
  refine ⟨.group offset phrase (offset + 1 + text.length + 1 + text'.length : Nat), ?_, ?_⟩
  · rw [Infix.postorder, hpostorder]
  · rw [hsymbol]
    simpa [tokens, htokens] using hspells

theorem IsOperandText.callOne (h : IsOperandText text postorder) (f : Function) :
    IsOperandText (f.name.toList ++ '(' :: (text ++ [')'])) (postorder ++ [.call f.name (some 1)]) := by
  intro offset
  obtain ⟨phrase, rfl, htext⟩ := h (offset + f.name.toList.length + 1)
  have hclose := spells_rightParen (offset + f.name.toList.length + 1 + text.length)
  have harguments := (htext.append rfl hclose).leftParen
  have hspells := (spells_functionName f offset).append rfl harguments
  refine ⟨.call f.name f.rule (Tables.function?_name f) offset (offset + f.name.toList.length : Nat)
    (.argument phrase.toSum) (offset + f.name.toList.length + 1 + text.length : Nat), ?_, ?_⟩
  · simp [Infix.postorder, count, Function.rule]
  · simpa [tokens] using hspells

theorem IsOperandText.callTwo (h : IsOperandText text postorder) (h' : IsOperandText text' postorder')
    (f : Function) :
    IsOperandText (f.name.toList ++ '(' :: (text ++ ',' :: (text' ++ [')'])))
      (postorder ++ postorder' ++ [.call f.name (some 2)]) := by
  intro offset
  obtain ⟨base, rfl, htext⟩ := h (offset + f.name.toList.length + 1)
  obtain ⟨exponent, rfl, htext'⟩ := h' (offset + f.name.toList.length + 1 + text.length + 1)
  have hclose := spells_rightParen (offset + f.name.toList.length + 1 + text.length + 1 + text'.length)
  have hsecond := (htext'.append rfl hclose).comma
  have harguments := (htext.append rfl hsecond).leftParen
  have hspells := (spells_functionName f offset).append rfl harguments
  refine ⟨.call f.name f.rule (Tables.function?_name f) offset (offset + f.name.toList.length : Nat)
    (.comma (.argument base.toSum) (offset + f.name.toList.length + 1 + text.length : Nat) exponent.toSum)
    (offset + f.name.toList.length + 1 + text.length + 1 + text'.length : Nat), ?_, ?_⟩
  · simp [Infix.postorder, count, Function.rule]
  · simpa [tokens] using hspells

end Infix


namespace Tree

/-- A negative number is the minus over its absolute value. -/
def signApart : Tree → Tree
  | number x => if Decimal.isNegative x then unary .neg (number x.abs) else number x
  | unary op operand => unary op operand.signApart
  | binary op left right => binary op left.signApart right.signApart
  | apply f argument => apply f argument.signApart
  | power base exponent => power base.signApart exponent.signApart

/-- All numbers of the tree are finite. -/
def IsFinite : Tree → Prop
  | number x => x.isFinite = true
  | unary _ operand => operand.IsFinite
  | binary _ left right => left.IsFinite ∧ right.IsFinite
  | apply _ argument => argument.IsFinite
  | power base exponent => base.IsFinite ∧ exponent.IsFinite

theorem isFinite_of_toPostfix {tree : Tree} (h : ∀ x, .literal x ∈ tree.toPostfix → x.isFinite = true) :
    tree.IsFinite := by
  induction tree with
  | number x => exact h x (List.mem_singleton_self _)
  | unary op operand ih => exact ih fun x hx => h x (List.mem_append_left _ hx)
  | binary op left right ihl ihr =>
    have hoperands (x : Float) (hx : .literal x ∈ left.toPostfix ++ right.toPostfix) : x.isFinite = true :=
      h x (List.mem_append_left _ hx)
    exact ⟨ihl fun x hx => hoperands x (List.mem_append_left _ hx),
      ihr fun x hx => hoperands x (List.mem_append_right _ hx)⟩
  | apply f argument ih => exact ih fun x hx => h x (List.mem_append_left _ hx)
  | power base exponent ihb ihe =>
    have hoperands (x : Float) (hx : .literal x ∈ base.toPostfix ++ exponent.toPostfix) : x.isFinite = true :=
      h x (List.mem_append_left _ hx)
    exact ⟨ihb fun x hx => hoperands x (List.mem_append_left _ hx),
      ihe fun x hx => hoperands x (List.mem_append_right _ hx)⟩

theorem toPostfix_signApart (tree : Tree) :
    tree.signApart.toPostfix = tree.toPostfix.flatMap Postfix.signApart := by
  induction tree with
  | number x =>
    simp only [signApart, toPostfix, List.flatMap_cons, List.flatMap_nil, Postfix.signApart, List.append_nil]
    split <;> rfl
  | unary op operand ih => simp [signApart, toPostfix, Postfix.signApart, ih]
  | binary op left right ihl ihr => simp [signApart, toPostfix, Postfix.signApart, ihl, ihr]
  | apply f argument ih => simp [signApart, toPostfix, Postfix.signApart, ih]
  | power base exponent ihb ihe => simp [signApart, toPostfix, Postfix.signApart, ihb, ihe]

theorem toList_print_neg (operand : Tree) :
    (unary .neg operand).print.toList = '(' :: '-' :: (operand.print.toList ++ [')']) := by
  show ("(-" ++ operand.print ++ ")").toList = _
  simp only [String.toList_append, List.append_assoc]
  rfl

theorem toList_print_percent (operand : Tree) :
    (unary .percent operand).print.toList = '(' :: (operand.print.toList ++ ['%', ')']) := by
  show ("(" ++ operand.print ++ "%)").toList = _
  simp only [String.toList_append, List.append_assoc]
  rfl

theorem toList_print_binary (op : BinaryOperator) (left right : Tree) :
    (binary op left right).print.toList =
      '(' :: (left.print.toList ++ ((Operator.binary op).symbol.toList ++ (right.print.toList ++ [')']))) := by
  show ("(" ++ left.print ++ (Operator.binary op).symbol ++ right.print ++ ")").toList = _
  simp only [String.toList_append, List.append_assoc]
  rfl

theorem toList_print_apply (f : UnaryFunction) (argument : Tree) :
    (apply f argument).print.toList =
      (Function.unary f).name.toList ++ '(' :: (argument.print.toList ++ [')']) := by
  show (f.name ++ "(" ++ argument.print ++ ")").toList = _
  simp only [String.toList_append, List.append_assoc]
  rfl

theorem toList_print_power (base exponent : Tree) :
    (power base exponent).print.toList = Function.power.name.toList ++
      '(' :: (base.print.toList ++ ',' :: (exponent.print.toList ++ [')'])) := by
  show (Function.power.name ++ "(" ++ base.print ++ "," ++ exponent.print ++ ")").toList = _
  simp only [String.toList_append, List.append_assoc]
  rfl

theorem isOperandText_number {x : Float} (h : x.isFinite = true) :
    Infix.IsOperandText (number x).print.toList (number x).signApart.toPostfix := by
  obtain ⟨negative, bits, hbits, rfl⟩ := Decimal.exists_signAndBits h
  have hnumeral := Infix.isOperandText_number (Decimal.isNumeral_numeralOf (.ofBits bits))
  rw [Decimal.toFloat_numeralOf hbits] at hnumeral
  rw [print, Decimal.toList_printNumber negative hbits, signApart, Decimal.isNegative_signAndBits negative hbits]
  cases negative with
  | true =>
    rw [Decimal.abs_signAndBits true hbits]
    exact hnumeral.minus
  | false => exact hnumeral

/-- A tree is printed as an operand with its post-order. -/
theorem isOperandText_print {tree : Tree} (h : tree.IsFinite) :
    Infix.IsOperandText tree.print.toList tree.signApart.toPostfix := by
  induction tree with
  | number x => exact isOperandText_number h
  | unary op operand ih =>
    cases op with
    | neg =>
      rw [toList_print_neg]
      exact (ih h).minus
    | percent =>
      rw [toList_print_percent]
      exact (ih h).percent
  | binary op left right ihl ihr =>
    rw [toList_print_binary]
    exact (ihl h.1).binary (ihr h.2) op
  | apply f argument ih =>
    rw [toList_print_apply]
    exact (ih h).callOne (.unary f)
  | power base exponent ihb ihe =>
    rw [toList_print_power]
    exact (ihb h.1).callTwo (ihe h.2) .power

end Tree

end SciCalc
