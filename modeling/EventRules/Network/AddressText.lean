import EventRules.Network.Address
import EventRules.Text.Digits

/-!
# The text of addresses

Version 4 is four decimal octets without leading zeros; version 6 is eight groups of up to four
hexadecimal digits, where one run of zero groups may be left out between two colons and the last
two groups may be written as octets. `Address.render` writes the first longest run of two or more
zero groups as two colons, and an embedded version 4 address as octets.
-/

namespace EventRules

namespace Address

/-- A reader takes what it accepts off the front of a text. -/
abbrev Reader (α : Type) := List Char → Option (α × List Char)

/-- The digits of base `base` off the front, at least one and at most `most`. -/
def readDigits (base most : Nat) : Reader (List Char) := fun text =>
  let digits := text.takeWhile fun c => (Digits.valueOf? base c).isSome
  if digits.isEmpty || digits.length > most then none
  else some (digits, text.drop digits.length)

/-- One octet, written without leading zeros. -/
def readOctet : Reader UInt8 := fun text => do
  let (digits, rest) ← readDigits 10 3 text
  let value ← Digits.read? 10 digits
  if (digits.head? == some '0' && digits.length > 1) || value > 255 then none
  else some (.ofNat value, rest)

def readGroup : Reader UInt16 := fun text => do
  let (digits, rest) ← readDigits 16 4 text
  let value ← Digits.read? 16 digits
  some (.ofNat value, rest)

def readChar (c : Char) : Reader Unit
  | d :: rest => if d = c then some ((), rest) else none
  | [] => none

/-- `n` octets, each with a dot before it. -/
def readMoreOctets : Nat → Reader (List UInt8)
  | 0, text => some ([], text)
  | n + 1, text => do
    let (_, text) ← readChar '.' text
    let (octet, text) ← readOctet text
    let (octets, text) ← readMoreOctets n text
    some (octet :: octets, text)

def readOctets : Reader (List UInt8) := fun text => do
  let (octet, text) ← readOctet text
  let (octets, text) ← readMoreOctets 3 text
  some (octet :: octets, text)

def groupOf (high low : UInt8) : UInt16 :=
  .ofNat (high.toNat * 256 + low.toNat)

def groupsOf : List UInt8 → List UInt16
  | [a, b, c, d] => [groupOf a b, groupOf c d]
  | _ => []

/-- Groups read off a text: the groups, and whether the last two were written as octets. -/
structure Groups where
  groups : List UInt16
  endsInOctets : Bool

/-- Up to `limit` groups, each but the `first` with a colon before it. Where two groups still fit,
octets may stand for them and end the run. -/
def readGroups : (limit : Nat) → (first : Bool) → List Char → Groups × List Char
  | 0, _, text => (⟨[], false⟩, text)
  | limit + 1, first, text =>
    match if first then some text else (readChar ':' text).map (·.2) with
    | none => (⟨[], false⟩, text)
    | some start =>
      match if limit = 0 then none else readOctets start with
      | some (octets, rest) => (⟨groupsOf octets, true⟩, rest)
      | none =>
        match readGroup start with
        | none => (⟨[], false⟩, text)
        | some (group, rest) =>
          let (more, rest) := readGroups limit false rest
          (⟨group :: more.groups, more.endsInOctets⟩, rest)

def readV4? (text : List Char) : Option Address :=
  match readOctets text with
  | some (octets, []) => ofOctets? octets
  | _ => none

def readV6? (text : List Char) : Option Address :=
  match readGroups 8 true text with
  | (front, rest) =>
    if front.groups.length = 8 then if rest.isEmpty then ofGroups? front.groups else none
    else if front.endsInOctets then none
    else match rest with
      | ':' :: ':' :: rest =>
        match readGroups (7 - front.groups.length) true rest with
        | (back, []) =>
          let zeros := 8 - front.groups.length - back.groups.length
          ofGroups? (front.groups ++ List.replicate zeros 0 ++ back.groups)
        | _ => none
      | _ => none

def read? (text : List Char) : Option Address :=
  (readV4? text).or (readV6? text)

/-- Texts with a separator between any two. -/
def joined (separator : Char) : List (List Char) → List Char
  | [] => []
  | [part] => part
  | part :: rest => part ++ separator :: joined separator rest

def renderOctets (octets : List UInt8) : List Char :=
  joined '.' (octets.map fun octet => Nat.toDigits 10 octet.toNat)

def renderGroups (groups : List UInt16) : List Char :=
  joined ':' (groups.map fun group => Nat.toDigits 16 group.toNat)

def octetsOf (group : UInt16) : List UInt8 :=
  [.ofNat (group.toNat / 256), .ofNat (group.toNat % 256)]

/-- The length of the run of zero groups at the front. -/
def leadingZeros (groups : List UInt16) : Nat :=
  (groups.takeWhile (· == 0)).length

/-- Where the first longest run of zero groups starts, and its length. -/
def longestZeros : List UInt16 → Nat × Nat
  | [] => (0, 0)
  | group :: rest =>
    let here := leadingZeros (group :: rest)
    let (start, length) := longestZeros rest
    if here ≥ length then (0, here) else (start + 1, length)

def renderV6 (groups : List UInt16) : List Char :=
  match groups with
  | [0, 0, 0, 0, 0, 0xFFFF, g, h] => "::ffff:".toList ++ renderOctets (octetsOf g ++ octetsOf h)
  | _ =>
    let (start, length) := longestZeros groups
    if length > 1 then
      renderGroups (groups.take start) ++ ':' :: ':' :: renderGroups (groups.drop (start + length))
    else renderGroups groups

def render : Address → List Char
  | v4 octets => renderOctets octets.toList
  | v6 groups => renderV6 groups.toList

end Address

end EventRules
