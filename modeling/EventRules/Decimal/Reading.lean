import EventRules.Binary.Double
import EventRules.Text.Digits

/-!
# Reading decimal text

`Double.ofDecimal` rounds a decimal number to the nearest double, and `readDouble?` reads the
text of one: an optional sign, then digits with an optional point and exponent, or the name of
infinity or of what is not a number, in any case.
-/

namespace EventRules

namespace Binary.Double

/-- `digits * 10 ^ exponent`, rounded once. Exponents far outside the range of doubles are settled
without computing the power. -/
def ofDecimal (negative : Bool) (digits : Nat) (exponent : Int) : Double :=
  let magnitude : Int := exponent + (Nat.toDigits 10 digits).length
  if digits = 0 ∨ magnitude < -400 then zero negative
  else if magnitude > 400 then infinity negative
  else if exponent < 0 then ofRatio negative digits (Nat.pow 10 (-exponent).toNat)
  else ofRatio negative (digits * Nat.pow 10 exponent.toNat) 1

end Binary.Double

namespace Decimal

open Binary

/-- The longest run of decimal digits at the front, and the rest. -/
def spanDigits (text : List Char) : List Char × List Char :=
  (text.takeWhile Char.isDigit, text.dropWhile Char.isDigit)

/-- What follows the digits of a number: nothing, or `e`, an optional sign and digits. -/
def readExponent? : List Char → Option Int
  | [] => some 0
  | c :: rest => if c == 'e' || c == 'E' then Digits.readInt? 10 rest else none

/-- Digits with an optional point and exponent; a point needs a digit on one side of it. -/
def readUnsigned? (negative : Bool) (text : List Char) : Option Double :=
  let (whole, rest) := spanDigits text
  let (fraction, rest) := match rest with
    | '.' :: rest => spanDigits rest
    | _ => ([], rest)
  match Digits.read? 10 (whole ++ fraction), readExponent? rest with
  | some digits, some exponent => some (.ofDecimal negative digits (exponent - fraction.length))
  | _, _ => none

def readDouble? (text : List Char) : Option Double :=
  let (negative, text) := Digits.splitSign text
  match String.ofList (text.map Char.toLower) with
  | "inf" | "infinity" => some (.infinity negative)
  | "nan" => some .quietNaN
  | _ => readUnsigned? negative text

end Decimal

end EventRules
