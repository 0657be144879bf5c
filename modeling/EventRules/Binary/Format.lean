/-!
# Binary floating-point formats

A format is given by the width of its fraction and of its exponent field; a bit pattern of it is a
natural number. `Format.decode` says which value a pattern stands for, `Format.round` gives the
pattern nearest to a fraction (a tie goes to the even pattern), and `Format.rank` orders patterns
as numbers.
-/

namespace EventRules.Binary

/-- A binary interchange format: a sign, `exponentBits` of exponent and `fractionBits` of fraction. -/
structure Format where
  fractionBits : Nat
  exponentBits : Nat
  deriving DecidableEq, Repr

/-- The value of a bit pattern. A finite value is `significand * 2 ^ exponent` with its sign. -/
inductive Reading where
  | nan
  | infinite (negative : Bool)
  | finite (negative : Bool) (significand : Nat) (exponent : Int)
  deriving DecidableEq, Repr

/-- The integer nearest to `num / den`; a tie goes to the even one. -/
def divideToEven (num den : Nat) : Nat :=
  let quotient := num / den
  let twice := 2 * (num % den)
  if twice > den ∨ (twice = den ∧ quotient % 2 = 1) then quotient + 1 else quotient

namespace Format

variable (f : Format)

/-- The exponent of the last place of the subnormal numbers, the finest of the format. -/
def finestExponent : Int :=
  2 - (Nat.pow 2 (f.exponentBits - 1) : Int) - f.fractionBits

/-- The pattern of positive infinity, above every finite magnitude. -/
def infinity : Nat :=
  (Nat.pow 2 f.exponentBits - 1) * Nat.pow 2 f.fractionBits

def signWeight : Nat :=
  Nat.pow 2 (f.exponentBits + f.fractionBits)

/-- The pattern of a sign and a magnitude. -/
def signed (negative : Bool) (magnitude : Nat) : Nat :=
  if negative then f.signWeight + magnitude else magnitude

/-- The pattern that stands for all the patterns that are not a number. -/
def quietNaN : Nat :=
  f.infinity + Nat.pow 2 (f.fractionBits - 1)

def decode (bits : Nat) : Reading :=
  let negative := bits / f.signWeight % 2 == 1
  let magnitude := bits % f.signWeight
  let field := magnitude / Nat.pow 2 f.fractionBits
  let fraction := magnitude % Nat.pow 2 f.fractionBits
  if magnitude > f.infinity then .nan
  else if magnitude = f.infinity then .infinite negative
  else if field = 0 then .finite negative fraction f.finestExponent
  else .finite negative (Nat.pow 2 f.fractionBits + fraction) (f.finestExponent + (field - 1))

/-- The exponent of the last place of the numbers around `num / den`: the one that leaves a full
significand before the point, unless that is finer than the format goes. -/
def placeOf (num den : Nat) : Int :=
  let guess : Int := (num.log2 : Int) - den.log2 - f.fractionBits
  let short :=
    if guess < 0 then decide (num * Nat.pow 2 (-guess).toNat < den * Nat.pow 2 f.fractionBits)
    else decide (num < den * Nat.pow 2 guess.toNat * Nat.pow 2 f.fractionBits)
  max f.finestExponent (if short then guess - 1 else guess)

/-- The magnitude nearest to `num / den`. Patterns count the numbers of the format upward from
zero, so a significand that rounds up to the next power of two carries into the exponent by
itself, and what lies past the largest number is infinity. -/
def roundMagnitude (num den : Nat) : Nat :=
  if num = 0 then 0
  else
    let place := f.placeOf num den
    let significand :=
      if place < 0 then divideToEven (num * Nat.pow 2 (-place).toNat) den
      else divideToEven num (den * Nat.pow 2 place.toNat)
    min f.infinity ((place - f.finestExponent).toNat * Nat.pow 2 f.fractionBits + significand)

/-- The pattern nearest to `num / den` with the given sign. -/
def round (negative : Bool) (num den : Nat) : Nat :=
  f.signed negative (f.roundMagnitude num den)

/-- The place of a pattern among the numbers of the format; both zeros have rank zero, and what is
not a number has none. -/
def rank (bits : Nat) : Option Int :=
  let magnitude := bits % f.signWeight
  if magnitude > f.infinity then none
  else some (if bits / f.signWeight % 2 == 1 then -(magnitude : Int) else magnitude)

/-- `a` and `b` are the same number. Nothing equals a pattern that is not a number. -/
def equal (a b : Nat) : Bool :=
  match f.rank a, f.rank b with
  | some x, some y => x == y
  | _, _ => false

def less (a b : Nat) : Bool :=
  match f.rank a, f.rank b with
  | some x, some y => x < y
  | _, _ => false

end Format

/-- Sixty-four bits, 53 of them precise. -/
def Format.double : Format := ⟨52, 11⟩

/-- Thirty-two bits, 24 of them precise. -/
def Format.single : Format := ⟨23, 8⟩

end EventRules.Binary
