/-!
# Flags of patterns

A pattern changes how the rest of a group is read: `(?im)` turns flags on, `(?i-s)` some on and some
off, and `(?x: … )` holds for one group only.
-/

namespace EventRules.Pattern

inductive Flag where
  | ignoreCase
  | multiLine
  | dotAll
  /-- Which of several matches is preferred; whether there is one does not depend on it. -/
  | swapGreed
  | unicode
  /-- Carriage returns end lines too. -/
  | pairedBreaks
  /-- White space and comments between the signs are passed over. -/
  | spaced
  deriving DecidableEq, Repr

def Flag.ofChar? : Char → Option Flag
  | 'i' => some ignoreCase
  | 'm' => some multiLine
  | 's' => some dotAll
  | 'U' => some swapGreed
  | 'u' => some unicode
  | 'R' => some pairedBreaks
  | 'x' => some spaced
  | _ => none

/-- Flags that are turned on (`true`) or off. -/
abbrev FlagChanges := List (Flag × Bool)

/-- Reads flags up to the colon or parenthesis after them, which is the second result. A flag or the
minus stands there at most once, and a flag has to follow the minus; `dangling` is whether it is
still to come. -/
def readChanges (seen : FlagChanges) (on dangling : Bool) :
    List Char → Option (FlagChanges × Char × List Char)
  | [] => none
  | c :: rest =>
    if c = ':' ∨ c = ')' then if dangling then none else some (seen, c, rest)
    else if c = '-' then if on then readChanges seen false true rest else none
    else
      match Flag.ofChar? c with
      | some flag =>
        if seen.any (·.1 = flag) then none else readChanges ((flag, on) :: seen) on false rest
      | none => none

/-- The flags in force at a place. -/
structure Flags where
  ignoreCase : Bool := false
  multiLine : Bool := false
  dotAll : Bool := false
  swapGreed : Bool := false
  unicode : Bool := true
  pairedBreaks : Bool := false
  spaced : Bool := false
  deriving DecidableEq, Repr

namespace Flags

def set (flags : Flags) (change : Flag × Bool) : Flags :=
  match change.1 with
  | .ignoreCase => { flags with ignoreCase := change.2 }
  | .multiLine => { flags with multiLine := change.2 }
  | .dotAll => { flags with dotAll := change.2 }
  | .swapGreed => { flags with swapGreed := change.2 }
  | .unicode => { flags with unicode := change.2 }
  | .pairedBreaks => { flags with pairedBreaks := change.2 }
  | .spaced => { flags with spaced := change.2 }

def change (flags : Flags) (changes : FlagChanges) : Flags :=
  changes.foldl set flags

end Flags

end EventRules.Pattern
