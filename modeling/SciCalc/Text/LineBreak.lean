/-!
# Line breaks

The characters that end a line of text in any script.
-/

namespace SciCalc.Text

def lineBreaks : List Nat := [0x0A, 0x0B, 0x0C, 0x0D, 0x1C, 0x1D, 0x1E, 0x85, 0x2028, 0x2029]

def isLineBreak (c : Char) : Bool := lineBreaks.contains c.toNat

/-- What stands before the first line break. -/
def firstLine (s : String) : String := String.ofList (s.toList.takeWhile (!isLineBreak ·))

end SciCalc.Text
