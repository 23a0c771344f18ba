import SciCalc.Scalar
import SciCalc.Text.Blank
import SciCalc.Text.Compatibility.Form
import SciCalc.Text.Digit
import SciCalc.Text.Invisible
import SciCalc.Text.Word

/-!
# Spellings of expressions

People write `3²`, `√4` or `2 × π`. `Spelling.plain` respells such a text with the signs and names that an
expression is made of. It does so in passes, and each pass is a function on the list of characters.
-/

namespace SciCalc.Spelling

open Text

/-! ### Invisible characters -/

/-- Tabs and line ends become spaces; other control and format characters vanish. -/
def visible (c : Char) : List Char :=
  if c = '\t' || c = '\n' || c = '\r' then [' ']
  else if isInvisible c then []
  else [c]

/-! ### Superscripts -/

def superscriptDigits : List (Char × Char) := [
  ('⁰', '0'), ('¹', '1'), ('²', '2'), ('³', '3'), ('⁴', '4'),
  ('⁵', '5'), ('⁶', '6'), ('⁷', '7'), ('⁸', '8'), ('⁹', '9')]

def superscriptSigns : List (Char × Char) := [('⁻', '-'), ('⁺', '+')]

def isSuperscriptDigit (c : Char) : Bool := (superscriptDigits.lookup c).isSome

/--
Writes each run of superscript digits, with the superscript sign in front of it, as a power. `inRun` tells
that the character before was a digit of such a run or its sign.
-/
def powers (inRun : Bool) : List Char → List Char
  | [] => []
  | c :: rest =>
    match superscriptDigits.lookup c with
    | some digit => if inRun then digit :: powers true rest else '^' :: digit :: powers true rest
    | none =>
      match superscriptSigns.lookup c with
      | some sign =>
        if (rest.head?.map isSuperscriptDigit).getD false then '^' :: sign :: powers true rest
        else c :: powers false rest
      | none => c :: powers false rest

/-! ### Other signs -/

/-- Signs with a plain counterpart. They are replaced before the compatibility form, which would fold some
of them into something else. -/
def glyphs : List (Char × List Char) := [
  ('π', ['p', 'i']), ('Π', ['p', 'i']),
  ('×', ['*']), ('·', ['*']), ('⋅', ['*']), ('∗', ['*']),
  ('÷', ['/']), ('∕', ['/']),
  ('−', ['-']), ('‐', ['-']), ('‑', ['-']), ('‒', ['-']), ('–', ['-']), ('—', ['-']), ('―', ['-']),
  ('﹣', ['-']), ('－', ['-'])]

def glyph (c : Char) : List Char := (glyphs.lookup c).getD [c]

/-! ### Radical signs -/

/-- The length of the fraction that the text starts with: a point and digits. -/
def fractionLength : List Char → Nat
  | '.' :: rest =>
    match (rest.takeWhile isDecimalDigit).length with
    | 0 => 0
    | digits => digits + 1
  | _ => 0

/-- A letter or low line that a name can start with. -/
def startsName (c : Char) : Bool := c.isAlpha || c == '_'

/--
The length of the radicand at the start of the text: a number, or a name that no argument list follows.
It is zero if there is none.
-/
def radicandLength (s : List Char) : Nat :=
  match (s.takeWhile isDecimalDigit).length with
  | 0 =>
    if (s.head?.map startsName).getD false then
      let following := (s.dropWhile isWordChar).dropWhile isBlank
      if following.head? = some '(' then 0 else (s.takeWhile isWordChar).length
    else fractionLength s
  | digits => digits + fractionLength (s.drop digits)

/-- Writes radical signs as calls: one before a radicand takes it as its argument. -/
def roots : List Char → List Char
  | [] => []
  | c :: rest =>
    if c = '√' then
      let behind := rest.dropWhile isBlank
      match radicandLength behind with
      | 0 => ['s', 'q', 'r', 't'] ++ roots rest
      | length => ['s', 'q', 'r', 't', '('] ++ behind.take length ++ ')' :: roots (behind.drop length)
    else c :: roots rest
termination_by s => s.length
decreasing_by
  · exact Nat.lt_succ_self _
  · have h : (rest.dropWhile isBlank).length ≤ rest.length := (List.dropWhile_sublist _).length_le
    simp only [List.length_drop, List.length_cons]
    omega
  · exact Nat.lt_succ_self _

/-! ### Doubled stars -/

/-- Writes a power with its plain sign. -/
def carets : List Char → List Char
  | '*' :: '*' :: rest => '^' :: carets rest
  | c :: rest => c :: carets rest
  | [] => []

/-! ### All passes -/

/-- The plain spelling of a text. -/
def plain (s : List Char) : List Char :=
  let signs := (powers false (s.flatMap visible)).flatMap glyph
  strip isBlank (carets (roots (compatibilityForm signs)))

/-- The plain spelling of what was entered; nothing is spelled as the empty text. -/
def ofScalar : Scalar → String
  | .absent => ""
  | raw => String.ofList (plain raw.display.toList)

end SciCalc.Spelling
