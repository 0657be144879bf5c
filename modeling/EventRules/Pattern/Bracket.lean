import EventRules.Pattern.Atom

/-!
# Bracketed sets

`[a-z\d]` is a set of characters, and so is a bracket inside a bracket. `&&`, `--` and `~~` join all
that is in front of them in the bracket with what comes after, up to the next such sign. A bracket
with `^` first is the complement of what it holds.

The depth of a set counts the brackets, lists of members and joins around its innermost member.
-/

namespace EventRules.Pattern

inductive Join where
  | intersection
  | difference
  | symmetricDifference
  deriving DecidableEq, Repr

def Join.apply (a b : CodeSet) : Join → CodeSet
  | intersection => a ∩ b
  | difference => a \ b
  | symmetricDifference => a.symmetricDifference b

/-- The sign of a join in front of a text, and what follows it. -/
def readJoin? : List Char → Option (Join × List Char)
  | '&' :: '&' :: rest => some (.intersection, rest)
  | '-' :: '-' :: rest => some (.difference, rest)
  | '~' :: '~' :: rest => some (.symmetricDifference, rest)
  | _ => none

structure DeepSet where
  chars : CodeSet
  depth : Nat

/-- The content of an open bracket so far. -/
structure Bracket where
  negated : Bool
  /-- What is before the last join, and the join. -/
  joined : Option (DeepSet × Join)
  /-- The members after it, last first. -/
  members : List DeepSet

namespace Bracket

def push (b : Bracket) (member : DeepSet) : Bracket :=
  { b with members := member :: b.members }

/-- The members after the last join, as one set. -/
def listed (b : Bracket) : DeepSet :=
  match b.members with
  | [member] => member
  | members =>
    ⟨.ofRanges (members.flatMap (·.chars.ranges)),
      if members.isEmpty then 0 else (members.map (·.depth)).foldl max 0 + 1⟩

/-- All members so far, as one set. -/
def content (flags : Flags) (b : Bracket) : DeepSet :=
  match b.joined with
  | none => b.listed
  | some (left, join) =>
    ⟨join.apply (flags.fold left.chars) (flags.fold b.listed.chars),
      max left.depth b.listed.depth + 1⟩

def join (flags : Flags) (b : Bracket) (join : Join) : Bracket :=
  { b with joined := some (b.content flags, join), members := [] }

def close? (flags : Flags) (b : Bracket) : Option DeepSet :=
  let content := b.content flags
  (flags.negate? b.negated (flags.fold content.chars)).map fun chars => ⟨chars, content.depth + 1⟩

/-- The members that a minus in front stands for, as often as it stands there. -/
def readMinuses (spaced : Bool) : Nat → Bracket → List Char → Bracket × List Char
  | fuel + 1, b, '-' :: rest =>
    readMinuses spaced fuel (b.push ⟨.singleton '-', 0⟩) (skip spaced rest)
  | _, b, text => (b, text)

/-- The start of a bracket whose opening sign is read: `^`, and then those signs that are members
only here. A bracket is never empty, so a closing one in front is a member. -/
def open? (spaced : Bool) (text : List Char) : Option (Bracket × List Char) :=
  let text := skip spaced text
  let (negated, text) := match text with
    | '^' :: rest => (true, skip spaced rest)
    | _ => (false, text)
  let (b, text) := readMinuses spaced text.length ⟨negated, none, []⟩ text
  let (b, text) := match b.members, text with
    | [], ']' :: rest => (b.push ⟨.singleton ']', 0⟩, skip spaced rest)
    | _, _ => (b, text)
  if text.isEmpty then none else some (b, text)

/-- A class such as `[:alpha:]` or `[:^alpha:]` in front of a text, whether it is negated, and the
text after it. -/
def readClass? (text : List Char) : Option (CodeSet × Bool × List Char) :=
  match text with
  | '[' :: ':' :: text =>
    let (negated, text) := match text with
      | '^' :: rest => (true, rest)
      | _ => (false, text)
    match Text.cut? ':' text with
    | some (name, ']' :: rest) => (asciiClass? name).map fun s => (s, negated, rest)
    | _ => none
  | _ => none

/-- One character or escape in a bracket. -/
def readAtom? (spaced : Bool) : List Char → Option (Atom × List Char)
  | [] => none
  | '\\' :: rest => readEscape? spaced rest
  | c :: rest => some (.char c, rest)

/-- The sign behind a minus, blanks and a comment sign passed over if the pattern is spaced. -/
def behindMinus (spaced : Bool) (rest : List Char) : Option Char :=
  if !spaced then rest.head?
  else
    match rest.dropWhile Text.isBlank with
    | '#' :: rest => (rest.dropWhile Text.isBlank).head?
    | rest => rest.head?

/-- A member at the front of a text: an atom, or a range between two characters. A minus is no range
if the bracket ends after it or a second minus follows. -/
def readMember? (flags : Flags) (text : List Char) : Option (CodeSet × List Char) := do
  let (first, rest) ← readAtom? flags.spaced text
  match skip flags.spaced rest with
  | [] => none
  | '-' :: after =>
    let sign := behindMinus flags.spaced after
    if sign = some ']' ∨ sign = some '-' then
      return (← first.members? flags, '-' :: after)
    else
      let (last, rest) ← readAtom? flags.spaced (skip flags.spaced after)
      let low ← first.char?
      let high ← last.char?
      let _ ← first.members? flags
      let _ ← last.members? flags
      if low ≤ high then return (.ofRange low.toNat high.toNat, rest) else none
  | rest => return (← first.members? flags, rest)

/-- Reads on in the bracket `b`, which the brackets `outer` are around, up to the end of the
outermost. Each round takes a character, so `fuel` is the length of the text. -/
def read? (flags : Flags) : Nat → Bracket → List Bracket → List Char → Option (DeepSet × List Char)
  | 0, _, _, _ => none
  | fuel + 1, b, outer, text =>
    match skip flags.spaced text with
    | [] => none
    | '[' :: rest =>
      match readClass? ('[' :: rest) with
      | some (s, negated, rest) =>
        match flags.negate? negated (flags.fold s) with
        | some s => read? flags fuel (b.push ⟨s, 0⟩) outer rest
        | none => none
      | none =>
        match open? flags.spaced rest with
        | some (inner, rest) => read? flags fuel inner (b :: outer) rest
        | none => none
    | ']' :: rest =>
      match b.close? flags, outer with
      | none, _ => none
      | some set, [] => some (set, rest)
      | some set, around :: outer => read? flags fuel (around.push set) outer rest
    | text =>
      match readJoin? text with
      | some (sign, rest) => read? flags fuel (b.join flags sign) outer rest
      | none =>
        match readMember? flags text with
        | some (chars, rest) => read? flags fuel (b.push ⟨chars, 0⟩) outer rest
        | none => none

end Bracket

/-- The set whose opening bracket is read, and the text after it. -/
def readSet? (flags : Flags) (text : List Char) : Option (DeepSet × List Char) :=
  (Bracket.open? flags.spaced text).bind fun (b, rest) =>
    Bracket.read? flags (rest.length + 1) b [] rest

end EventRules.Pattern
