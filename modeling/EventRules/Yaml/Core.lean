import EventRules.Decimal.Reading
import EventRules.Numeral
import EventRules.Yaml.Value

/-!
# The types of scalars

A plain scalar without a tag is null, a truth value or a number if it is written as one, and a string
otherwise. Integers are decimal, or hexadecimal, octal or binary with a mark in front; one that does
not fit into 64 bits but into 128 denotes nothing at all.
-/

namespace EventRules.Yaml

open Binary

def readNull? (text : List Char) : Option Unit :=
  if ["~", "null", "Null", "NULL"].contains (String.ofList text) then some () else none

def readBool? (text : List Char) : Option Bool :=
  match String.ofList text with
  | "true" | "True" | "TRUE" => some true
  | "false" | "False" | "FALSE" => some false
  | _ => none

/-- Digits with an optional sign and a zero too many in front, which make no number. -/
def hasLeadingZero (text : List Char) : Bool :=
  match (Digits.splitSign text).2 with
  | '0' :: c :: rest => (c :: rest).all Char.isDigit
  | _ => false

/-- The base that the mark in front of some digits says, and the digits. -/
def splitBase : List Char → Nat × List Char
  | '0' :: 'x' :: digits => (16, digits)
  | '0' :: 'o' :: digits => (8, digits)
  | '0' :: 'b' :: digits => (2, digits)
  | digits => (10, digits)

/-- The integer that a text is written as, of any size. -/
def readInteger? (text : List Char) : Option Int :=
  if hasLeadingZero text then none
  else
    let (negative, unsigned) := Digits.splitSign text
    let (base, digits) := splitBase unsigned
    (Digits.read? base digits).map fun n => if negative then -(n : Int) else n

/-- What an integer in a text comes to. -/
inductive IntegerReading where
  | absent
  | tooLarge
  | value (n : Int)

def IntegerReading.of (text : List Char) : IntegerReading :=
  match readInteger? text with
  | none => .absent
  | some n =>
    if Digits.inInt64 n || (0 ≤ n && n < UInt64.size) then .value n
    else if -(Nat.pow 2 127 : Int) ≤ n && n < Nat.pow 2 128 then .tooLarge
    else .absent

/-- The number that a text is written as with a point, an exponent or a name. -/
def readFloat? (text : List Char) : Option Double :=
  let (unsigned, signed) := match text with
    | '+' :: '+' :: _ | '+' :: '-' :: _ => ([], text)
    | '+' :: rest => (rest, text)
    | _ => (text, text)
  match String.ofList unsigned, String.ofList signed with
  | ".inf", _ | ".Inf", _ | ".INF", _ => some (.infinity false)
  | _, "-.inf" | _, "-.Inf" | _, "-.INF" => some (.infinity true)
  | _, ".nan" | _, ".NaN" | _, ".NAN" => some .quietNaN
  | _, _ => (Decimal.readDouble? unsigned).filter Double.isFinite

def ofPlain? (text : List Char) : Option Yaml :=
  if text.isEmpty || (readNull? text).isSome then some .null
  else match readBool? text with
    | some value => some (.bool value)
    | none =>
      match IntegerReading.of text with
      | .value n => some (.number (.integer n))
      | .tooLarge => none
      | .absent =>
        match if hasLeadingZero text then none else readFloat? text with
        | some x => some (.number (.float x))
        | none => some (.string (.ofList text))

def standardTag (name : String) : List Char :=
  ("tag:yaml.org,2002:" ++ name).toList

/-- The value of a scalar with a standard tag, however it is quoted; other tags make strings. -/
def ofTagged? (tag text : List Char) : Option Yaml :=
  if tag = standardTag "bool" then (readBool? text).map .bool
  else if tag = standardTag "int" then
    match IntegerReading.of text with
    | .value n => some (.number (.integer n))
    | _ => none
  else if tag = standardTag "float" then (readFloat? text).map fun x => .number (.float x)
  else if tag = standardTag "null" then (readNull? text).map fun _ => .null
  else some (.string (.ofList text))

end EventRules.Yaml
