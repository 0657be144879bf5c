/-!
# Digits

Reading natural numbers and integers from digits of any base up to 36. Writing is
`Nat.toDigits`, with lower-case letters for the digits past nine.
-/

namespace EventRules.Digits

/-- The value of a digit of base `base`; letters of both cases count on from ten. -/
def valueOf? (base : Nat) (c : Char) : Option Nat :=
  let value :=
    if '0' ≤ c ∧ c ≤ '9' then c.toNat - '0'.toNat
    else if 'a' ≤ c ∧ c ≤ 'z' then c.toNat - 'a'.toNat + 10
    else if 'A' ≤ c ∧ c ≤ 'Z' then c.toNat - 'A'.toNat + 10
    else 36
  if value < base then some value else none

/-- The number that `read` followed by the given digits stands for. -/
def continue? (base : Nat) (read : Nat) : List Char → Option Nat
  | [] => some read
  | c :: rest =>
    match valueOf? base c with
    | some digit => continue? base (base * read + digit) rest
    | none => none

/-- The number that a non-empty run of digits stands for. -/
def read? (base : Nat) : List Char → Option Nat
  | [] => none
  | c :: rest => continue? base 0 (c :: rest)

/-- An optional sign off the front: whether it is a minus, and what follows it. -/
def splitSign : List Char → Bool × List Char
  | '+' :: rest => (false, rest)
  | '-' :: rest => (true, rest)
  | text => (false, text)

/-- The integer that an optional sign and digits stand for. -/
def readInt? (base : Nat) (text : List Char) : Option Int :=
  let (negative, digits) := splitSign text
  (read? base digits).map fun n => if negative then -(n : Int) else n

/-- The least and the greatest value of a signed word of 64 bits. -/
def inInt64 (value : Int) : Bool :=
  Int64.minValue.toInt ≤ value && value ≤ Int64.maxValue.toInt

/-- A decimal integer that fits into a signed word of 64 bits. -/
def readInt64? (text : List Char) : Option Int64 :=
  (readInt? 10 text).bind fun value => if inInt64 value then some (.ofInt value) else none

/-- An optional plus and decimal digits whose value is at most `greatest`. -/
def readAtMost? (greatest : Nat) (text : List Char) : Option Nat :=
  let digits := match text with
    | '+' :: rest => rest
    | _ => text
  (read? 10 digits).bind fun value => if value ≤ greatest then some value else none

end EventRules.Digits
