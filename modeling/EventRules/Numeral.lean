import EventRules.Binary.Double

/-!
# Numbers of a document

Documents and events hold integers, kept exactly, and double precision numbers.
-/

namespace EventRules

/-- A number as a document holds it. -/
inductive Numeral where
  | integer (value : Int)
  | float (value : Binary.Double)
  deriving DecidableEq, Repr

namespace Numeral

/-- Whether two numerals are one number; an integer is no float, whatever their values. -/
def same : Numeral → Numeral → Bool
  | integer a, integer b => a == b
  | float a, float b => a.equal b || (a.isNaN && b.isNaN)
  | _, _ => false

def toDouble : Numeral → Binary.Double
  | integer value => .ofInt value
  | float value => value

end Numeral

end EventRules
