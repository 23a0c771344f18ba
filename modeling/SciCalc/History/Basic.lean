import SciCalc.Failure
import SciCalc.Settings

/-!
# Histories

A history holds the latest calculations of one session, newest first, up to its capacity.
-/

namespace SciCalc

/-- One calculation: what was entered and how its result was shown. -/
structure Entry where
  expression : Scalar
  result : String

def Entry.display (entry : Entry) : String := s!"{entry.expression.display} = {entry.result}"

structure History where
  capacity : Nat
  entries : List Entry

namespace History

/-- The greatest number in a signed machine word. -/
def greatestWord : Int := 9223372036854775807

/-- An empty history for so many entries, the standard number if that is zero. -/
def create (maxEntries : Int) : Except Failure History :=
  let capacity := Settings.orStandard maxEntries Settings.standard.maxEntries
  if capacity < -greatestWord - 1 || greatestWord < capacity then .error .capacityTooBig
  else if capacity < 0 then .error .negativeCapacity
  else .ok ⟨capacity.toNat, []⟩

/-- Puts an entry in front; the oldest one gives way when the history is full. -/
def add (history : History) (entry : Entry) : History :=
  { history with entries := (entry :: history.entries).take history.capacity }

def latest? (history : History) : Option Entry := history.entries.head?

def clear (history : History) : History := { history with entries := [] }

def size (history : History) : Nat := history.entries.length

end History

end SciCalc
