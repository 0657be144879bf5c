import EventRules.Numeral
import EventRules.Decimal.Reading

/-!
# Numbers of JSON text

An integer that fits into 64 bits, signed or not, is kept exactly; minus zero and every other number
is a double. Its digits are read into a word of 64 bits as long as they fit, the digits of the
integer part after that only scale it and those of the fraction are dropped; the word, rounded
once, is then multiplied or divided by a power of ten. A number past the largest double is none.
-/

namespace EventRules.Json

open Binary

structure NumberText where
  negative : Bool
  whole : List Char
  fraction : List Char
  exponent : Int
  /-- Whether neither a fraction nor an exponent is written. -/
  isInteger : Bool
  deriving DecidableEq, Repr

namespace NumberText

/-- The exponent that a text ends with: nothing, or `e`, an optional sign and digits. -/
def readExponent? : List Char → Option (Int × Bool)
  | [] => some (0, true)
  | c :: rest =>
    if c == 'e' || c == 'E' then (Digits.readInt? 10 rest).map fun n => (n, false) else none

/-- Digits without a leading zero, unless zero is all. -/
def isWhole : List Char → Bool
  | [] => false
  | ['0'] => true
  | c :: _ => c != '0'

/-- A number written as the standard has it. -/
def read? (text : List Char) : Option NumberText :=
  let (negative, unsigned) := match text with
    | '-' :: rest => (true, rest)
    | _ => (false, text)
  let (whole, rest) := Decimal.spanDigits unsigned
  if !isWhole whole then none
  else match rest with
    | '.' :: rest =>
      let (fraction, rest) := Decimal.spanDigits rest
      if fraction.isEmpty then none
      else (readExponent? rest).map fun (exponent, _) => ⟨negative, whole, fraction, exponent, false⟩
    | _ => (readExponent? rest).map fun (exponent, absent) => ⟨negative, whole, [], exponent, absent⟩

/-- Digits are read into `word` as long as the result fits into 64 bits; what is left over. -/
def absorb (word : Nat) : List Char → Nat × List Char
  | [] => (word, [])
  | c :: rest =>
    let next := word * 10 + (c.toNat - '0'.toNat)
    if next < UInt64.size then absorb next rest else (word, c :: rest)

def powerOfTen (n : Nat) : Double :=
  .ofRatio false (Nat.pow 10 n) 1

/-- `word * 10 ^ exponent` without its sign, computed in doubles. Two divisions by the largest power
leave nothing of a word. -/
def scale? (word : Nat) (exponent : Int) : Option Double :=
  let start := Double.ofRatio false word 1
  if exponent > 308 then if word = 0 then some start else none
  else if 0 ≤ exponent then
    let scaled := start.times (powerOfTen exponent.toNat)
    if scaled.isFinite then some scaled else none
  else if -308 ≤ exponent then some (start.dividedBy (powerOfTen (-exponent).toNat))
  else if -616 ≤ exponent then
    some ((start.dividedBy (powerOfTen 308)).dividedBy (powerOfTen (-exponent - 308).toNat))
  else some (.zero false)

def toDouble? (n : NumberText) : Option Double :=
  let (word, left) := absorb 0 n.whole
  let (all, dropped) := absorb word n.fraction
  let places := n.fraction.length - dropped.length
  (scale? all (left.length - places + n.exponent)).map fun x =>
    if n.negative then x.negate else x

def value? (n : NumberText) : Option Numeral :=
  match Digits.read? 10 n.whole with
  | none => none
  | some magnitude =>
    let value : Int := if n.negative then -magnitude else magnitude
    let exact := n.isInteger && if n.negative then 0 < magnitude && Digits.inInt64 value
      else magnitude < UInt64.size
    if exact then some (.integer value) else n.toDouble?.map .float

end NumberText

end EventRules.Json
