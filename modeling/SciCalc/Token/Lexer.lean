import SciCalc.Fault
import SciCalc.Text.Blank
import SciCalc.Token.Basic

/-!
# Splitting a text into tokens

From left to right the longest number or identifier is taken, else one operator or punctuation sign.
Blanks separate tokens and are dropped.
-/

namespace SciCalc.Token

def isIdentifierStart (c : Char) : Bool := c.isAlpha || c == '_'

def isIdentifierPart (c : Char) : Bool := c.isAlphanum || c == '_'

/-- The kind of a token of one character. -/
def signKind? (c : Char) : Option Kind :=
  if ['+', '-', '*', '/', '^', '%'].contains c then some .operator
  else if c = '(' then some .leftParen
  else if c = ')' then some .rightParen
  else if c = ',' then some .comma
  else none

/-- Splits off a number: digits, and a point with digits behind it. Either part may be missing. -/
def splitNumber? (s : List Char) : Option (List Char × List Char) :=
  let whole := s.takeWhile Char.isDigit
  let rest := s.dropWhile Char.isDigit
  match rest with
  | '.' :: tail =>
    let fraction := tail.takeWhile Char.isDigit
    if fraction.isEmpty then if whole.isEmpty then none else some (whole, rest)
    else some (whole ++ '.' :: fraction, tail.dropWhile Char.isDigit)
  | _ => if whole.isEmpty then none else some (whole, rest)

/-- A number is not empty, and it and the rest make up the text. -/
theorem splitNumber?_append {s text rest : List Char} (h : splitNumber? s = some (text, rest)) :
    text ++ rest = s ∧ text ≠ [] := by
  have split := List.takeWhile_append_dropWhile (p := Char.isDigit) (l := s)
  simp only [splitNumber?] at h
  split at h
  · rename_i tail htail
    have parts := List.takeWhile_append_dropWhile (p := Char.isDigit) (l := tail)
    split at h
    · split at h
      · contradiction
      · rename_i hne
        cases h
        exact ⟨split, by simpa using hne⟩
    · cases h
      refine ⟨?_, by simp⟩
      rw [List.append_assoc, List.cons_append, parts, ← htail, split]
  · split at h
    · contradiction
    · rename_i hne
      cases h
      exact ⟨split, by simpa using hne⟩

theorem length_rest_lt_of_splitNumber? {s text rest : List Char}
    (h : splitNumber? s = some (text, rest)) : rest.length < s.length := by
  obtain ⟨happ, hne⟩ := splitNumber?_append h
  have := congrArg List.length happ
  have : 0 < text.length := List.length_pos_iff.2 hne
  simp only [List.length_append] at *
  omega

/-- The tokens of a text that begins at `offset`. -/
def lexFrom (offset : Nat) (s : List Char) : Except Fault (List Token) :=
  match s with
  | [] => .ok []
  | c :: tail =>
    if Text.isBlank c then lexFrom (offset + 1) tail
    else
      match _split : splitNumber? (c :: tail) with
      | some (text, rest) =>
        (lexFrom (offset + text.length) rest).map (⟨.number, String.ofList text, offset⟩ :: ·)
      | none =>
        if isIdentifierStart c then
          let text := c :: tail.takeWhile isIdentifierPart
          (lexFrom (offset + text.length) (tail.dropWhile isIdentifierPart)).map
            (⟨.identifier, String.ofList text, offset⟩ :: ·)
        else
          match signKind? c with
          | some kind => (lexFrom (offset + 1) tail).map (⟨kind, String.ofList [c], offset⟩ :: ·)
          | none => .error (.unexpectedCharacter offset c)
termination_by s.length
decreasing_by
  · simp
  · exact length_rest_lt_of_splitNumber? _split
  · exact Nat.lt_succ_of_le (List.dropWhile_suffix _).length_le
  · simp

/-- The tokens of a text; none for a blank text. -/
def lex (text : String) : Except Fault (List Token) := lexFrom 0 text.toList

end SciCalc.Token
