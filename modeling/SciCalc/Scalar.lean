import SciCalc.Decimal.Layout
import SciCalc.Text.Quoted

/-!
# Scalars

A `Scalar` is a value as a request or a table cell carries it: nothing, a truth value, a number or a text.
-/

namespace SciCalc

inductive Scalar where
  | absent
  | truth (value : Bool)
  | integer (value : Int)
  | number (value : Float)
  | text (value : String)

namespace Scalar

/-- The value as it reads inside a sentence. -/
def display : Scalar → String
  | absent => "None"
  | truth true => "True"
  | truth false => "False"
  | integer n => toString n
  | number x => Decimal.plainText x
  | text s => s

/-- The value amounts to nothing: no value, falsehood, zero or an empty text. -/
def isNothing : Scalar → Bool
  | absent => true
  | truth value => !value
  | integer n => n == 0
  | number x => x == 0
  | text s => s.isEmpty

/-- The kind of the value, by the name that complaints give it. -/
def kindName : Scalar → String
  | absent => "NoneType"
  | truth _ => "bool"
  | integer _ => "int"
  | number _ => "float"
  | text _ => "str"

/-- How a number or truth value lies to a bound. What is not a number lies nowhere. -/
def order? (bound : Int) : Scalar → Option Ordering
  | truth value => some (compare (if value then 1 else 0) bound)
  | integer n => some (compare n bound)
  | number x =>
    let bound := Float.ofInt bound
    if x < bound then some .lt else if x == bound then some .eq else if bound < x then some .gt else none
  | absent | text _ => none

/-- The value as it is cited: a text stands in quotes. -/
def cite : Scalar → String
  | text s => Text.quoted s
  | value => value.display

end Scalar

end SciCalc
