import EventRules.Binary.Double

/-!
# The shortest decimal that reads back

A finite double stands for every real that rounds to it. `Shortest.of` gives the decimal with the
fewest digits in that interval, and of those the nearest to the number itself.
-/

namespace EventRules.Decimal

open Binary

/-- The number `0.d₁d₂… * 10 ^ point` with its sign; no digits stand for zero. -/
structure Shortest where
  negative : Bool
  digits : List Char
  point : Int
  deriving DecidableEq, Repr

namespace Shortest

structure Ratio where
  num : Nat
  den : Nat

/-- `r * 10 ^ e` -/
def Ratio.scale10 (r : Ratio) (e : Int) : Ratio :=
  if e < 0 then ⟨r.num, r.den * Nat.pow 10 (-e).toNat⟩ else ⟨r.num * Nat.pow 10 e.toNat, r.den⟩

/-- Twice the distance of `r` to `n`, over `r.den`. -/
def Ratio.distance (r : Ratio) (n : Nat) : Nat :=
  if r.num < n * r.den then n * r.den - r.num else r.num - n * r.den

/-- The least `k` with `r < 10 ^ k`, searched upward from a guess that is not above it. -/
def magnitudeFrom (r : Ratio) : Nat → Int → Int
  | 0, guess => guess
  | steps + 1, guess =>
    let scaled := r.scale10 (-guess)
    if scaled.num < scaled.den then guess else magnitudeFrom r steps (guess + 1)

def magnitude (r : Ratio) : Int :=
  magnitudeFrom r 8 (((r.num.log2 : Int) - r.den.log2) * 30103 / 100000 - 2)

/-- The reals that round to one number, in quarters of its last place: `low`, the number and `high`,
all over the same denominator. The ends belong to it when `closed`. -/
structure Interval where
  low : Ratio
  value : Ratio
  high : Ratio
  closed : Bool

def Interval.of (significand : Nat) (exponent : Int) : Interval :=
  let quarters (n : Nat) : Ratio :=
    let (num, den) := Double.scaled n (exponent - 2)
    ⟨num, den⟩
  -- below a power of two the numbers lie twice as dense
  let narrow := significand == Nat.pow 2 52 && exponent != Format.double.finestExponent
  { low := quarters (4 * significand - if narrow then 1 else 2)
    value := quarters (4 * significand)
    high := quarters (4 * significand + 2)
    closed := significand % 2 == 0 }

/-- Whether `n * 10 ^ e` lies in the interval. -/
def Interval.has (i : Interval) (n : Nat) (e : Int) : Bool :=
  let low := i.low.scale10 (-e)
  let high := i.high.scale10 (-e)
  if i.closed then low.num ≤ n * low.den && n * high.den ≤ high.num
  else low.num < n * low.den && n * high.den < high.num

/-- The multiple of `10 ^ e` in the interval that is nearest to the number, if there is one: only
the two neighbours of the number can be it. A tie goes to the even neighbour. -/
def Interval.nearest? (i : Interval) (e : Int) : Option Nat :=
  let scaled := i.value.scale10 (-e)
  let below := scaled.num / scaled.den
  match i.has below e && below != 0, i.has (below + 1) e with
  | true, true =>
    let down := scaled.distance below
    let up := scaled.distance (below + 1)
    some (if up < down || (up == down && below % 2 == 1) then below + 1 else below)
  | true, false => some below
  | false, true => some (below + 1)
  | false, false => none

/-- The coarsest grid with a hit, from `places` digits on; seventeen digits always suffice. -/
def search (i : Interval) (magnitude : Int) : Nat → Nat → Nat × Int
  | 0, places =>
    let e := magnitude - places
    ((i.value.scale10 (-e)).num / (i.value.scale10 (-e)).den, e)
  | more + 1, places =>
    match i.nearest? (magnitude - places) with
    | some n => (n, magnitude - places)
    | none => search i magnitude more (places + 1)

/-- Digits without trailing zeros. -/
def trimZeros (digits : List Char) : List Char :=
  (digits.reverse.dropWhile (· == '0')).reverse

/-- The shortest decimal of a finite number, given by its sign, significand and exponent. -/
def of (negative : Bool) (significand : Nat) (exponent : Int) : Shortest :=
  if significand = 0 then ⟨negative, [], 0⟩
  else
    let i := Interval.of significand exponent
    let (n, e) := search i (magnitude i.value) 17 1
    let digits := Nat.toDigits 10 n
    ⟨negative, trimZeros digits, e + digits.length⟩

end Shortest

end EventRules.Decimal
