import SciCalc.Proofs.Attempt
import SciCalc.Proofs.Numerals

/-!
# Tokens of a text

The lexer gives numbers that are numerals, and signs that are written as their kind is.
-/

namespace SciCalc.Token

/-- The texts of operator tokens. -/
def operatorTexts : List String := ["+", "-", "*", "/", "^", "%"]

/-- The text is one that a token of the kind can have. -/
def IsSpelled (token : Token) : Prop :=
  match token.kind with
  | .number => IsNumeral token.text.toList
  | .identifier => True
  | .operator => token.text ∈ operatorTexts
  | .leftParen => token.text = "("
  | .rightParen => token.text = ")"
  | .comma => token.text = ","

theorem mem_takeWhile {α : Type} {p : α → Bool} {xs : List α} {x : α} (h : x ∈ xs.takeWhile p) : p x :=
  List.all_eq_true.mp List.all_takeWhile x h

theorem isNumeral_of_splitNumber? {s text rest : List Char} (h : splitNumber? s = some (text, rest)) :
    IsNumeral text := by
  have hwhole : ∀ c ∈ s.takeWhile Char.isDigit, c.isDigit := fun c hc => mem_takeWhile hc
  simp only [splitNumber?] at h
  split at h
  · rename_i tail htail
    have hfraction : ∀ c ∈ tail.takeWhile Char.isDigit, c.isDigit := fun c hc => mem_takeWhile hc
    split at h
    · split at h
      · contradiction
      · rename_i hne
        cases h
        exact .whole _ hwhole (by simpa using hne)
    · rename_i hne
      cases h
      exact .pointed _ _ hwhole hfraction (by simpa using hne)
  · split at h
    · contradiction
    · rename_i hne
      cases h
      exact .whole _ hwhole (by simpa using hne)

theorem isSpelled_of_signKind? {c : Char} {kind : Kind} (h : signKind? c = some kind) (offset : Int) :
    IsSpelled ⟨kind, String.ofList [c], offset⟩ := by
  unfold signKind? at h
  split at h
  · rename_i hop
    cases h
    have hmem : c ∈ ['+', '-', '*', '/', '^', '%'] := List.contains_iff_mem.mp hop
    have htexts : operatorTexts = ['+', '-', '*', '/', '^', '%'].map fun c => String.ofList [c] := by decide
    show String.ofList [c] ∈ operatorTexts
    rw [htexts]
    exact List.mem_map_of_mem hmem
  split at h
  · rename_i hc
    cases h
    rw [hc]
    rfl
  split at h
  · rename_i hc
    cases h
    rw [hc]
    rfl
  split at h
  · rename_i hc
    cases h
    rw [hc]
    rfl
  · contradiction

/-- A token before the tokens of the rest of the text. -/
theorem forall_mem_of_map_cons {P : Token → Prop} {first : Token} {attempt : Except Fault (List Token)}
    {tokens : List Token} (hfirst : P first) (hrest : ∀ rest, attempt = .ok rest → ∀ token ∈ rest, P token)
    (h : attempt.map (first :: ·) = .ok tokens) : ∀ token ∈ tokens, P token := by
  cases attempt with
  | error fault => contradiction
  | ok rest =>
    cases h
    intro token ht
    rcases List.mem_cons.mp ht with rfl | ht
    · exact hfirst
    · exact hrest rest rfl token ht

theorem isSpelled_of_lexFrom (offset : Nat) (s : List Char) :
    ∀ tokens, lexFrom offset s = .ok tokens → ∀ token ∈ tokens, token.IsSpelled := by
  fun_induction lexFrom offset s with
  | case1 offset =>
    intro tokens h
    cases h
    simp
  | case2 offset c tail hblank ih => exact ih
  | case3 offset c tail hblank text rest hsplit ih =>
    intro tokens h
    refine forall_mem_of_map_cons ?_ ih h
    show IsNumeral (String.ofList text).toList
    rw [String.toList_ofList]
    exact isNumeral_of_splitNumber? hsplit
  | case4 offset c tail hblank hsplit hstart text ih =>
    intro tokens h
    have hname : IsSpelled ⟨.identifier, String.ofList text, offset⟩ := trivial
    exact forall_mem_of_map_cons hname ih h
  | case5 offset c tail hblank hsplit hstart kind hkind ih =>
    intro tokens h
    exact forall_mem_of_map_cons (isSpelled_of_signKind? hkind offset) ih h
  | case6 =>
    intro tokens h
    contradiction

/-- Every token of a text is spelled as its kind is. -/
theorem isSpelled_of_lex {text : String} {tokens : List Token} (h : lex text = .ok tokens) :
    ∀ token ∈ tokens, token.IsSpelled :=
  isSpelled_of_lexFrom 0 text.toList tokens h

end SciCalc.Token
