import SciCalc.Text.Ranges

/-!
# Blanks

White space of every script together with the four ASCII information separators, 29 characters.
-/

namespace SciCalc.Text

def blankRanges : List (Nat × Nat) := [
  (0x0009, 0x000D), (0x001C, 0x0020), (0x0085, 0x0085), (0x00A0, 0x00A0), (0x1680, 0x1680),
  (0x2000, 0x200A), (0x2028, 0x2029), (0x202F, 0x202F), (0x205F, 0x205F), (0x3000, 0x3000)]

def isBlank (c : Char) : Bool := inRanges blankRanges c.toNat

/-- A blank that may surround a written number: the information separators may not. -/
def isNumberBlank (c : Char) : Bool := isBlank c && !(0x1C ≤ c.toNat && c.toNat ≤ 0x1F)

/-- Drops what satisfies `p` from both ends. -/
def strip (p : Char → Bool) (s : List Char) : List Char :=
  ((s.dropWhile p).reverse.dropWhile p).reverse

/-- The text without the blanks around it. -/
def trimBlanks (s : String) : String := String.ofList (strip isBlank s.toList)

example : blankRanges.foldl (fun n (first, last) => n + (last + 1 - first)) 0 = 29 := by decide

end SciCalc.Text
