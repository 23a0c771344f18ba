import SciCalc.Text.Compatibility.Letters
import SciCalc.Text.Compatibility.Symbols
import SciCalc.Text.Compatibility.Ideographs
import SciCalc.Text.Compatibility.Supplement
import SciCalc.Text.Compatibility.Runs
import SciCalc.Text.Compatibility.Marks

/-!
# The compatibility form of a text

Every character is replaced by its full compatibility decomposition, the marks behind a starter are put
into the order of their classes, and what composes is composed again (Unicode 14, form KC).
-/

namespace SciCalc.Text.Compatibility

/-- The pages of the decomposition table: first code point, last code point and entries. -/
def pages : List (Nat × Nat × List (Nat × List Nat)) := [
  (0x00A0, 0x01D2, page00A0),
  (0x01D3, 0x0587, page01D3),
  (0x0622, 0x1E14, page0622),
  (0x1E15, 0x1EE0, page1E15),
  (0x1EE1, 0x1FBD, page1EE1),
  (0x1FBE, 0x1FFE, page1FBE),
  (0x2000, 0x22ED, page2000),
  (0x2329, 0x2F6D, page2329),
  (0x2F6E, 0x3172, page2F6E),
  (0x3173, 0x32B1, page3173),
  (0x32B2, 0x338E, page32B2),
  (0x338F, 0x33FF, page338F),
  (0xA69C, 0xF9BA, pageA69C),
  (0xF9BB, 0xFA90, pageF9BB),
  (0xFA91, 0xFB95, pageFA91),
  (0xFB96, 0xFC7E, pageFB96),
  (0xFC7F, 0xFD58, pageFC7F),
  (0xFD59, 0xFE81, pageFD59),
  (0xFE82, 0xFFEE, pageFE82),
  (0x10781, 0x1EE5D, page10781),
  (0x1EE5F, 0x2F80D, page1EE5F),
  (0x2F80E, 0x2F8D5, page2F80E),
  (0x2F8D6, 0x2F99D, page2F8D6),
  (0x2F99E, 0x2FA1D, page2F99E)]

/-- Syllables of the Korean script are composed of a lead, a vowel and possibly a tail, by arithmetic. -/
def syllableBase : Nat := 0xAC00

def leadBase : Nat := 0x1100

def vowelBase : Nat := 0x1161

def tailBase : Nat := 0x11A7

def leadCount : Nat := 19

def vowelCount : Nat := 21

def tailCount : Nat := 28

def syllableCount : Nat := leadCount * vowelCount * tailCount

/-- The full decomposition of a code point. -/
def decompose (code : Nat) : List Nat :=
  if code < 0xA0 then [code]
  else if syllableBase ≤ code && code < syllableBase + syllableCount then
    let index := code - syllableBase
    let lead := leadBase + index / (vowelCount * tailCount)
    let vowel := vowelBase + index % (vowelCount * tailCount) / tailCount
    let tail := index % tailCount
    if tail = 0 then [lead, vowel] else [lead, vowel, tailBase + tail]
  else
    match runs.find? fun (first, last, _) => first ≤ code && code ≤ last with
    | some (first, _, target) => [target + (code - first)]
    | none =>
      match pages.find? fun (first, last, _) => first ≤ code && code ≤ last with
      | some (_, _, entries) => (entries.lookup code).getD [code]
      | none => [code]

/-- The canonical combining class; zero for a starter. -/
def combiningClass (code : Nat) : Nat :=
  if code < 0x300 then 0
  else
    match (classRowsLow ++ classRowsHigh).find? fun (first, last, _) => first ≤ code && code ≤ last with
    | some (_, _, value) => value
    | none => 0

/-- A code point with its class. -/
structure Marked where
  code : Nat
  rank : Nat
deriving DecidableEq, Repr

/-- Canonical order: every run of marks is sorted by class, marks of one class keep their order. -/
def orderMarks : List Marked → List Marked
  | [] => []
  | x :: rest =>
    let ordered := orderMarks rest
    if x.rank = 0 then x :: ordered else insertFront x ordered
where
  /-- Puts an earlier mark before the marks of its own or a greater class. -/
  insertFront (mark : Marked) : List Marked → List Marked
    | [] => [mark]
    | next :: rest =>
      if next.rank = 0 || mark.rank ≤ next.rank then mark :: next :: rest
      else next :: insertFront mark rest

/-- What two code points compose to. -/
def composePair? (first second : Nat) : Option Nat :=
  if leadBase ≤ first && first < leadBase + leadCount && vowelBase ≤ second
      && second < vowelBase + vowelCount then
    some (syllableBase + ((first - leadBase) * vowelCount + (second - vowelBase)) * tailCount)
  else if syllableBase ≤ first && first < syllableBase + syllableCount
      && (first - syllableBase) % tailCount = 0 && tailBase < second && second < tailBase + tailCount then
    some (first + (second - tailBase))
  else (compositionRows.lookup second).bind (·.lookup first)

/--
Composes a starter with what follows it. `passed` holds the marks skipped so far, last first; a mark
is blocked by a skipped one of its own or a greater class, and a starter by any skipped mark.
-/
def absorb (starter : Nat) (passed : List Marked) : List Marked → Nat × List Marked
  | [] => (starter, passed.reverse)
  | x :: rest =>
    let blocked := match passed with
      | [] => false
      | previous :: _ => x.rank ≤ previous.rank
    match if blocked then none else composePair? starter x.code with
    | some composed => absorb composed passed rest
    | none => if x.rank = 0 then (starter, passed.reverse ++ x :: rest) else absorb starter (x :: passed) rest

theorem length_absorb_le (starter : Nat) (passed rest : List Marked) :
    (absorb starter passed rest).2.length ≤ passed.length + rest.length := by
  induction rest generalizing starter passed with
  | nil => simp [absorb]
  | cons x rest ih =>
    simp only [absorb]
    split
    · exact Nat.le_trans (ih _ _) (by simp)
    · split
      · simp
      · exact Nat.le_trans (ih _ _) (by simp; omega)

/-- Canonical composition of decomposed and ordered code points. -/
def compose : List Marked → List Nat
  | [] => []
  | x :: rest =>
    let result := absorb x.code [] rest
    result.1 :: compose result.2
termination_by marks => marks.length
decreasing_by
  have h := length_absorb_le x.code [] rest
  rw [List.length_nil, Nat.zero_add] at h
  exact Nat.lt_succ_of_le h

end SciCalc.Text.Compatibility

namespace SciCalc.Text

/-- The compatibility form. -/
def compatibilityForm (s : List Char) : List Char :=
  let decomposed := s.flatMap fun c => Compatibility.decompose c.toNat
  let marked := decomposed.map fun code => ⟨code, Compatibility.combiningClass code⟩
  (Compatibility.compose (Compatibility.orderMarks marked)).map Char.ofNat

end SciCalc.Text
