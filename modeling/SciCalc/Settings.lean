import SciCalc.Failure

/-!
# Settings

The defaults of a calculator, and the check that settings someone wrote down make sense.
-/

namespace SciCalc

structure Settings where
  angleUnit : String := "radians"
  /-- The greatest number of characters of an expression. -/
  maxLength : Int := 1000
  /-- The number of significant digits that are shown. -/
  precision : Int := 12
  /-- Values below it are shown as zero: it absorbs rounding such as that of the sine of pi. -/
  zeroThreshold : Float := 1e-15
  maxEntries : Int := 10
  maxSessions : Int := 1000
  logLevel : String := "INFO"

namespace Settings

def standard : Settings := {}

/-- A number that is given stands for itself, and zero for the standard. -/
def orStandard (given standard : Int) : Int := if given = 0 then standard else given

end Settings

/-- Settings as someone writes them down: any value may stand in any place. -/
structure Draft where
  angleUnit : Scalar := .text Settings.standard.angleUnit
  maxLength : Scalar := .integer Settings.standard.maxLength
  precision : Scalar := .integer Settings.standard.precision
  zeroThreshold : Scalar := .number Settings.standard.zeroThreshold
  maxEntries : Scalar := .integer Settings.standard.maxEntries
  maxSessions : Scalar := .integer Settings.standard.maxSessions
  logLevel : Scalar := .text Settings.standard.logLevel

namespace Draft

def isOneOf (names : List String) : Scalar → Bool
  | .text name => names.contains name
  | _ => false

/-- The value lies to the bound in one of the given ways. Nothing and texts lie to no number. -/
def lies (value : Scalar) (sign : String) (orders : List Ordering) (bound : Int) : Except Failure Bool :=
  match value with
  | .absent | .text _ => .error (.incomparable value.kindName sign (Scalar.integer bound).kindName)
  | _ => .ok ((value.order? bound).any orders.contains)

def isAbove (value : Scalar) (bound : Int) : Except Failure Bool := lies value ">" [.gt] bound

def isAtLeast (value : Scalar) (bound : Int) : Except Failure Bool := lies value ">=" [.gt, .eq] bound

/-- The value lies between the bounds; complaints name the lower one first. -/
def isBetween (value : Scalar) (lower upper : Int) : Except Failure Bool :=
  match value with
  | .absent | .text _ => .error (.incomparable (Scalar.integer lower).kindName "<=" value.kindName)
  | _ => .ok ((value.order? lower).any [.gt, .eq].contains && (value.order? upper).any [.lt, .eq].contains)

/-- The first setting that makes no sense is reported. -/
def check (draft : Draft) : Except Failure Unit := do
  unless isOneOf ["degrees", "radians"] draft.angleUnit do throw (.settings .angleUnit)
  unless ← isAbove draft.maxLength 0 do throw (.settings .maxLength)
  -- seventeen digits tell all values apart
  unless ← isBetween draft.precision 1 17 do throw (.settings .precision)
  unless ← isAtLeast draft.zeroThreshold 0 do throw (.settings .zeroThreshold)
  unless ← isAbove draft.maxEntries 0 do throw (.settings .maxEntries)
  unless ← isAbove draft.maxSessions 0 do throw (.settings .maxSessions)
  unless isOneOf ["DEBUG", "INFO", "WARNING", "ERROR", "CRITICAL"] draft.logLevel do
    throw (.settings .logLevel)

end Draft

end SciCalc
