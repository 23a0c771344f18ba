import SciCalc.Failure
import SciCalc.Text.Blank
import SciCalc.Text.Lower

/-!
# Angle units

The unit in which trigonometric functions take and give angles.
-/

namespace SciCalc

inductive AngleUnit where
  | degrees
  | radians
deriving DecidableEq, Repr

namespace AngleUnit

def name : AngleUnit → String
  | degrees => "degrees"
  | radians => "radians"

/-- The unit that a word names, in any case and between any blanks. -/
def ofWord? (word : String) : Option AngleUnit :=
  let plain := Text.lower (Text.trimBlanks word)
  if plain = "deg" || plain = "degree" || plain = "degrees" then some degrees
  else if plain = "rad" || plain = "radian" || plain = "radians" then some radians
  else none

/-- The unit that a value names by the way it is displayed. -/
def ofScalar (given : Scalar) : Except Failure AngleUnit :=
  match ofWord? given.display with
  | some unit => .ok unit
  | none => .error (.unknownAngleUnit given)

def pi : Float := 3.141592653589793

/-- An angle of this unit in radians. -/
def toRadians (unit : AngleUnit) (angle : Float) : Float :=
  match unit with
  | degrees => angle * (pi / 180)
  | radians => angle

/-- An angle in radians in this unit. -/
def ofRadians (unit : AngleUnit) (angle : Float) : Float :=
  match unit with
  | degrees => angle * (180 / pi)
  | radians => angle

end AngleUnit

end SciCalc
