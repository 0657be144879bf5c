import EventRules.Decimal.Shortest

/-!
# Decimal text of double precision numbers

A `Layout` decides how the shortest decimal of a number is laid out: which magnitudes are written
with all their places, whether an integer keeps a point, and the names of what is not finite.
-/

namespace EventRules.Decimal

open Binary

structure Layout where
  /-- Whether a number `0.d₁d₂… * 10 ^ k` is written without an exponent. -/
  positional : Int → Bool
  wholeTail : List Char
  infinity : List Char
  notANumber : List Char

namespace Layout

/-- Every place is written, and an integer has no point. -/
def plain : Layout where
  positional _ := true
  wholeTail := []
  infinity := "inf".toList
  notANumber := "NaN".toList

/-- The layout of numbers in a document: places between `10⁻⁵` and `10¹⁶`, an integer keeps its
point, and the names start with a dot. -/
def document : Layout where
  positional k := -5 < k && k ≤ 16
  wholeTail := ".0".toList
  infinity := ".inf".toList
  notANumber := ".nan".toList

def integer (n : Int) : List Char :=
  if n < 0 then '-' :: Nat.toDigits 10 n.natAbs else Nat.toDigits 10 n.natAbs

/-- The digits with a point after the first `point` of them. -/
def places (l : Layout) (digits : List Char) (point : Int) : List Char :=
  if point ≤ 0 then '0' :: '.' :: List.replicate (-point).toNat '0' ++ digits
  else if digits.length ≤ point.toNat then
    digits ++ List.replicate (point.toNat - digits.length) '0' ++ l.wholeTail
  else digits.take point.toNat ++ '.' :: digits.drop point.toNat

/-- One digit, a point before the others if there are any, and the exponent. -/
def exponential (digits : List Char) (point : Int) : List Char :=
  let mantissa := match digits with
    | first :: second :: rest => first :: '.' :: second :: rest
    | short => short
  mantissa ++ 'e' :: integer (point - 1)

def unsigned (l : Layout) (digits : List Char) (point : Int) : List Char :=
  if digits.isEmpty then '0' :: l.wholeTail
  else if l.positional point then l.places digits point
  else exponential digits point

def sign (negative : Bool) : List Char :=
  if negative then ['-'] else []

def render (l : Layout) (x : Double) : List Char :=
  match x.decode with
  | .nan => l.notANumber
  | .infinite negative => sign negative ++ l.infinity
  | .finite negative m e =>
    let s := Shortest.of negative m e
    sign negative ++ l.unsigned s.digits s.point

end Layout

end EventRules.Decimal
