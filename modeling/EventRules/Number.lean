import EventRules.Decimal.Layout
import EventRules.Decimal.Reading
import EventRules.Numeral

/-!
# Numbers of a rule

A number that a rule compares with is an integer of 64 bits or a double.
-/

namespace EventRules

open Binary

inductive Number where
  | integer (value : Int64)
  | float (value : Double)
  deriving DecidableEq, Repr

namespace Number

/-- The number in single precision, rounded once. -/
def toSingle : Number → Single
  | integer value => .ofInt value.toInt
  | float value => value.toSingle

def render : Number → String
  | integer value => .ofList (Decimal.Layout.integer value.toInt)
  | float value => .ofList (Decimal.Layout.plain.render value)

/-- The number that a text is written as: an integer if it is one that fits. -/
def read? (text : List Char) : Option Number :=
  match Digits.readInt64? text with
  | some value => some (integer value)
  | none => (Decimal.readDouble? text).map float

/-- A number of a document; an integer that does not fit is a float. -/
def ofNumeral : Numeral → Number
  | .integer value => if Digits.inInt64 value then integer (.ofInt value) else float (.ofInt value)
  | .float value => float value

end Number

end EventRules
