import EventRules.Unicode.Category
import EventRules.Unicode.Property

/-!
# Letters and numbers
-/

namespace EventRules.Text

/-- A character with the property Alphabetic, or a number of any kind. -/
def isAlphanumeric (c : Char) : Bool :=
  c.isAlphanum || (128 ≤ c.toNat && (Unicode.Property.alphabetic.contains c
    || Unicode.Category.number.contains c))

end EventRules.Text
