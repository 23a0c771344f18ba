/-!
# Records of comma separated text

A text is read character by character. Fields are separated by commas and records by line ends of any kind.
A quote at the start of a field opens a quoted part, in which a doubled quote stands for one quote. Lines
with nothing but blanks are no records. Where blanks turn out to belong to a field, reading goes on behind the
last line feed, so lines that end in a lone carriage return are read again there. A text is taken in portions
of a bounded number of records, and reading never goes back behind the start of a portion.
-/

namespace SciCalc.Csv

structure Record where
  /-- The number of its line. Line ends inside quotes are not counted. -/
  line : Nat
  fields : List String
deriving DecidableEq, Repr

/-- Where the reader stands. -/
inductive Place where
  | lineStart
  /-- Behind the carriage return that ends a record: a line feed or an empty field may follow. -/
  | recordEnd
  /-- Behind the carriage return that ends a line without a record: a line feed or a comma belongs to it. -/
  | blankEnd
  /-- In a line that has only blanks so far. -/
  | blanks
  | fieldStart
  | bare
  | quoted
  /-- Behind a quote in a quoted part: it may close the part or be half of a doubled quote. -/
  | quote
deriving DecidableEq, Repr

/-- Which character is read next. -/
inductive Turn where
  | next
  | same
  /-- The first one behind the last line feed. -/
  | back
deriving DecidableEq, Repr

structure Reader where
  place : Place
  /-- The characters of the current field, last first. -/
  field : List Char
  /-- The finished fields of the current record, last first. -/
  fields : List String
  /-- The number of finished lines. -/
  lines : Nat
  /-- The finished records, last first. -/
  records : List Record
  /-- The number of records that the portion still takes. -/
  room : Nat

namespace Reader

/-- A reader that takes the header and one more record. -/
def start : Reader := ⟨.lineStart, [], [], 0, [], 2⟩

def push (r : Reader) (place : Place) (c : Char) : Reader := { r with place := place, field := c :: r.field }

/-- A field ends before its first NUL. -/
def endField (r : Reader) : Reader :=
  let field := String.ofList (r.field.reverse.takeWhile (· ≠ '\x00'))
  { r with place := .fieldStart, field := [], fields := field :: r.fields }

/-- Ends a record whose fields are all finished. -/
def endRecord (r : Reader) : Reader :=
  { r with
    place := .lineStart
    fields := []
    lines := r.lines + 1
    records := ⟨r.lines + 1, r.fields.reverse⟩ :: r.records
    room := r.room - 1 }

/-- Ends a line that is no record. -/
def skipLine (r : Reader) (place : Place) : Reader := { r with place := place, lines := r.lines + 1 }

def stepBare (r : Reader) (c : Char) : Reader :=
  if c = ',' then r.endField
  else if c = '\n' then r.endField.endRecord
  else if c = '\r' then { r.endField with place := .recordEnd }
  else r.push .bare c

def stepFieldStart (r : Reader) (c : Char) : Reader :=
  if c = '"' then { r with place := .quoted } else r.stepBare c

def stepLineStart (r : Reader) (c : Char) : Reader :=
  if c = '\n' then r.skipLine .lineStart
  else if c = '\r' then r.skipLine .blankEnd
  else if c = ' ' || c = '\t' then { r with place := .blanks }
  else r.stepFieldStart c

def stepRecordEnd (r : Reader) (c : Char) : Reader × Turn :=
  if c = '\n' then (r.endRecord, .next)
  else if c = ',' then (r.endRecord.endField, .next)
  else (r.endRecord, .same)

def stepBlankEnd (r : Reader) (c : Char) : Reader :=
  if c = '\n' || c = ',' then { r with place := .lineStart } else r.stepLineStart c

/-- Blanks in front of something else belong to the first field, which cannot be quoted then. -/
def stepBlanks (r : Reader) (c : Char) : Reader × Turn :=
  if c = '\n' then (r.skipLine .lineStart, .next)
  else if c = '\r' then (r.skipLine .blankEnd, .next)
  else if c = ' ' || c = '\t' then (r, .next)
  else ({ r with place := .fieldStart }, .back)

def stepQuoted (r : Reader) (c : Char) : Reader :=
  if c = '"' then { r with place := .quote } else r.push .quoted c

def stepQuote (r : Reader) (c : Char) : Reader := if c = '"' then r.push .quoted c else r.stepBare c

def step (r : Reader) (c : Char) : Reader × Turn :=
  match r.place with
  | .lineStart => (r.stepLineStart c, .next)
  | .recordEnd => r.stepRecordEnd c
  | .blankEnd => (r.stepBlankEnd c, .next)
  | .blanks => r.stepBlanks c
  | .fieldStart => (r.stepFieldStart c, .next)
  | .bare => (r.stepBare c, .next)
  | .quoted => (r.stepQuoted c, .next)
  | .quote => (r.stepQuote c, .next)

/-- Whether the reader stands between records, where blanks may still send it back. -/
def slack (r : Reader) : Nat :=
  match r.place with
  | .lineStart | .blankEnd | .blanks => 1
  | _ => 0

/-- What reading may still cost. No step increases it, and one that does not go on decreases it. -/
def budget (r : Reader) : Nat := 2 * r.room + r.slack

theorem budget_endRecord_le {r : Reader} (h : 0 < r.room) : r.endRecord.budget + 1 ≤ 2 * r.room := by
  show 2 * (r.room - 1) + 1 + 1 ≤ 2 * r.room
  omega

theorem budget_stepBare_le {r : Reader} (c : Char) (h : 0 < r.room) : (r.stepBare c).budget ≤ 2 * r.room := by
  unfold stepBare
  split
  · exact Nat.le_refl (2 * r.room)
  · split
    · exact Nat.le_of_succ_le (budget_endRecord_le (r := r.endField) h)
    · split
      · exact Nat.le_refl (2 * r.room)
      · exact Nat.le_refl (2 * r.room)

theorem budget_stepFieldStart_le {r : Reader} (c : Char) (h : 0 < r.room) :
    (r.stepFieldStart c).budget ≤ 2 * r.room := by
  unfold stepFieldStart
  split
  · exact Nat.le_refl (2 * r.room)
  · exact budget_stepBare_le c h

theorem budget_stepLineStart_le {r : Reader} (c : Char) (h : 0 < r.room) :
    (r.stepLineStart c).budget ≤ 2 * r.room + 1 := by
  unfold stepLineStart
  split
  · exact Nat.le_refl (2 * r.room + 1)
  · split
    · exact Nat.le_refl (2 * r.room + 1)
    · split
      · exact Nat.le_refl (2 * r.room + 1)
      · exact Nat.le_succ_of_le (budget_stepFieldStart_le c h)

theorem budget_stepBlankEnd_le {r : Reader} (c : Char) (h : 0 < r.room) :
    (r.stepBlankEnd c).budget ≤ 2 * r.room + 1 := by
  unfold stepBlankEnd
  split
  · exact Nat.le_refl (2 * r.room + 1)
  · exact budget_stepLineStart_le c h

theorem budget_stepQuoted {r : Reader} (c : Char) : (r.stepQuoted c).budget = 2 * r.room := by
  unfold stepQuoted
  split <;> rfl

theorem budget_stepQuote_le {r : Reader} (c : Char) (h : 0 < r.room) :
    (r.stepQuote c).budget ≤ 2 * r.room := by
  unfold stepQuote
  split
  · exact Nat.le_refl (2 * r.room)
  · exact budget_stepBare_le c h

/-- What a step leaves of the budget. -/
def Affords (r : Reader) (next : Reader × Turn) : Prop :=
  next.1.budget ≤ r.budget ∧ (next.2 ≠ .next → next.1.budget < r.budget)

theorem affords_next {r next : Reader} (h : next.budget ≤ r.budget) : Affords r (next, .next) :=
  ⟨h, fun e => absurd rfl e⟩

theorem affords_of_lt {r next : Reader} (turn : Turn) (h : next.budget < r.budget) : Affords r (next, turn) :=
  ⟨Nat.le_of_lt h, fun _ => h⟩

theorem budget_of_slack {r : Reader} {n : Nat} (h : r.slack = n) : r.budget = 2 * r.room + n := by
  rw [budget, h]

theorem affords_stepRecordEnd {r : Reader} (c : Char) (h : 0 < r.room) : Affords r (r.stepRecordEnd c) := by
  have spent : r.endRecord.budget < r.budget :=
    Nat.lt_of_lt_of_le (budget_endRecord_le h) (Nat.le_add_right ..)
  unfold stepRecordEnd
  split
  · exact affords_of_lt _ spent
  · split
    · exact affords_of_lt _ (Nat.lt_of_le_of_lt (Nat.le_succ (2 * r.endRecord.room)) spent)
    · exact affords_of_lt _ spent

theorem affords_stepBlanks {r : Reader} (c : Char) (h : r.slack = 1) : Affords r (r.stepBlanks c) := by
  have budget := budget_of_slack h
  unfold stepBlanks
  split
  · exact affords_next (Nat.le_of_eq budget.symm)
  · split
    · exact affords_next (Nat.le_of_eq budget.symm)
    · split
      · exact affords_next (Nat.le_refl _)
      · exact affords_of_lt _ (Nat.lt_of_lt_of_le (Nat.lt_succ_self (2 * r.room)) (Nat.le_of_eq budget.symm))

theorem affords_step {r : Reader} (c : Char) (h : 0 < r.room) : Affords r (r.step c) := by
  have least : 2 * r.room ≤ r.budget := Nat.le_add_right ..
  unfold step
  split
  case h_1 place =>
    exact affords_next (budget_of_slack (n := 1) (by rw [slack, place]) ▸ budget_stepLineStart_le c h)
  case h_2 => exact affords_stepRecordEnd c h
  case h_3 place =>
    exact affords_next (budget_of_slack (n := 1) (by rw [slack, place]) ▸ budget_stepBlankEnd_le c h)
  case h_4 place => exact affords_stepBlanks c (by rw [slack, place])
  case h_5 => exact affords_next (Nat.le_trans (budget_stepFieldStart_le c h) least)
  case h_6 => exact affords_next (Nat.le_trans (budget_stepBare_le c h) least)
  case h_7 => exact affords_next (Nat.le_trans (Nat.le_of_eq (budget_stepQuoted c)) least)
  case h_8 => exact affords_next (Nat.le_trans (budget_stepQuote_le c h) least)

/-- Reads a portion, and gives the text behind it. `back` is the text behind the last line feed. -/
def portion (r : Reader) (back : List Char) : List Char → Reader × List Char
  | [] => (r, [])
  | c :: rest =>
    if _ : 0 < r.room then
      match _ : r.step c with
      | (next, .next) => portion next (if c = '\n' then rest else back) rest
      | (next, .same) => portion next back (c :: rest)
      | (next, .back) => portion next back back
    else (r, c :: rest)
termination_by text => (r.budget, text.length)
decreasing_by
  all_goals have affords := affords_step c ‹0 < r.room›
  · rw [‹r.step c = _›] at affords
    exact (Nat.lt_or_eq_of_le affords.1).elim (fun lt => .left _ _ lt)
      (fun eq => eq ▸ .right _ (Nat.lt_succ_self rest.length))
  · rw [‹r.step c = _›] at affords
    exact .left _ _ (affords.2 fun same => Turn.noConfusion same)
  · rw [‹r.step c = _›] at affords
    exact .left _ _ (affords.2 fun same => Turn.noConfusion same)

/-- The records at the end of the text, and the number of lines before a quoted part that is still open. -/
def finish (r : Reader) : List Record × Option Nat :=
  match r.place with
  | .lineStart | .blankEnd | .blanks => (r.records.reverse, none)
  | .quoted => (r.records.reverse, some r.lines)
  | .recordEnd => (r.endRecord.records.reverse, none)
  | .fieldStart | .bare | .quote => (r.endField.endRecord.records.reverse, none)

/-- The greatest number of fields of the records. -/
def width (r : Reader) : Nat := (r.records.map (·.fields.length)).foldl max 1

end Reader

/-- The records of a portion of a table that is so wide: the least power of two of which twice as many make
about a million fields. -/
def portionSize (width : Nat) : Nat :=
  (((List.range 20).map (Nat.pow 2)).find? fun size => 1048576 / width ≤ 2 * size).getD 1

/-- Reads portion by portion. Each takes at least a character, unless it has no room. -/
def readPortions (size : Nat) : Nat → Reader → List Char → Reader
  | 0, r, _ => r
  | count + 1, r, text =>
    match r.portion text text with
    | (r, []) => r
    | (r, rest) => readPortions size count { r with room := size } rest

/-- The reader behind a text. The first portion holds the header and a record, which counts for the second. -/
def readText (text : List Char) : Reader :=
  let (r, rest) := Reader.start.portion text text
  let size := portionSize r.width
  readPortions size (rest.length + 2) { r with room := size - 1 } rest

/-- The records of a text, and the number of lines before a quoted part that is never closed. -/
def records (text : List Char) : List Record × Option Nat := (readText text).finish

end SciCalc.Csv
