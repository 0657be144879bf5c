import EventRules.Pattern.Spacing
import EventRules.Text.Digits

/-!
# Counts of repetitions

`*`, `+`, `?`, and braces such as `{3}`, `{3,}` and `{3,5}`. A question mark behind them asks for as
few as possible, which changes nothing about whether there is a match; it only keeps a repetition apart
from one without it.
-/

namespace EventRules.Pattern

/-- How often something is repeated: at least, and at most, with as few as possible first if `lazy`. -/
structure Count where
  least : Nat
  most : Option Nat
  lazy : Bool := false
  deriving DecidableEq, Repr

/-- A number of at most 32 bits, with white space around it. -/
def readNumber? (spaced : Bool) (text : List Char) : Option (Nat × List Char) :=
  let text := text.dropWhile Text.isBlank
  let (digits, rest) := spanSpaced spaced (·.isDigit) text.length text
  match Digits.read? 10 digits with
  | some n => if n < UInt32.size then some (n, skip spaced (rest.dropWhile Text.isBlank)) else none
  | none => none

/-- A count whose opening brace is read. -/
def readBraces? (spaced : Bool) (text : List Char) : Option (Count × List Char) := do
  let (least, rest) ← readNumber? spaced (skip spaced text)
  match rest with
  | '}' :: rest => return ({ least, most := some least }, rest)
  | ',' :: rest =>
    match skip spaced rest with
    | '}' :: rest => return ({ least, most := none }, rest)
    | rest =>
      let (most, rest) ← readNumber? spaced rest
      match rest with
      | '}' :: rest => if least ≤ most then return ({ least, most := some most }, rest) else none
      | _ => none
  | _ => none

/-- The count and the question mark behind it, if there is one. -/
def Count.finish (count : Count) : List Char → Count × List Char
  | '?' :: rest => ({ count with lazy := true }, rest)
  | text => (count, text)

/-- The count in front of a text, if one of its signs is there: `none` if not, and `some none` if
what is there is no count. -/
def readCount (spaced : Bool) : List Char → Option (Option (Count × List Char))
  | '?' :: rest => some (some (Count.finish { least := 0, most := some 1 } rest))
  | '*' :: rest => some (some (Count.finish { least := 0, most := none } rest))
  | '+' :: rest => some (some (Count.finish { least := 1, most := none } rest))
  | '{' :: rest => some ((readBraces? spaced rest).map fun (count, rest) => count.finish (skip spaced rest))
  | _ => none

end EventRules.Pattern
