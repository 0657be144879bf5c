import EventRules.Pattern.Expr
import EventRules.Unicode.ByteRange

/-!
# Sizes of patterns

A pattern is refused if the automaton for it would be too large. The automaton reads bytes; it takes
32 bytes for each state, and besides 8 for each byte range that one state chooses among and 4 for each
state that one state splits into.
-/

namespace EventRules.Pattern

open Unicode

/-- The bytes for some states. -/
def states (n : Nat) : Nat :=
  32 * n

/-- The bytes for a state that splits into `n`. -/
def split (n : Nat) : Nat :=
  32 + 4 * n

/-- How many places at the front of two lists agree. -/
def agreement {α : Type} [DecidableEq α] : List α → List α → Nat
  | a :: as, b :: bs => if a = b then agreement as bs + 1 else 0
  | _, _ => 0

/-- The byte ranges of some sequences, those at the front that a sequence shares with the one before
it counted once. -/
def sharedLength (before : List ByteRange) : List (List ByteRange) → Nat
  | [] => 0
  | s :: rest => s.length - agreement before s + sharedLength s rest

/-- The bytes for reading one character of a set. -/
def setSize (s : CodeSet) : Nat :=
  match s.ranges with
  | [] => states 1
  | [(low, high)] =>
    if low = high then states (Char.ofNat low).utf8Size
    else if high ≤ 0x7F then states 2 + 8
    else ofSequences (ByteRange.ofSet s)
  | ranges =>
    if ranges.all (·.2 ≤ 0x7F) then states 2 + 8 * ranges.length
    else ofSequences (ByteRange.ofSet s)
where
  ofSequences (sequences : List (List ByteRange)) : Nat :=
    split sequences.length + states (1 + sharedLength [] sequences)

/-- Whether a match of the expression is certain to read a character. -/
def readsSomething {β : Type} : Expr CodeSet β → Bool
  | .blank => false
  | .one chars => !chars.isEmpty
  | .edge _ => false
  | .seq a b => readsSomething a || readsSomething b
  | .or a b => readsSomething a && readsSomething b
  | .many e least _ _ => least != 0 && readsSomething e
  | .group e => readsSomething e

/-- The bytes for a repetition of what takes `sub` bytes. -/
def repeatedSize (sub : Nat) (certain : Bool) : Nat → Option Nat → Nat
  | 0, some 1 => split 2 + sub + states 1
  | 0, none => if certain then split 2 + sub else split 2 + sub + split 2 + states 1
  | n, none => n * sub + split 2
  | n, some m =>
    (if n = 0 then states 1 else n * sub)
      + (if n = m then 0 else states 1 + (m - n) * (split 2 + sub))

/-- The bytes for an expression, and those for it as a branch of a choice. -/
def sizes : Expr CodeSet Edge → Nat × Nat
  | .blank => alone (states 1)
  | .one chars => alone (setSize chars)
  | .edge _ => alone (states 1)
  | .seq a b => alone ((sizes a).1 + (sizes b).1)
  | .or a b =>
    let branches := (sizes a).2 + (sizes b).2
    (states 2 + branches, branches)
  | .many e least most _ => alone (repeatedSize (sizes e).1 (readsSomething e) least most)
  | .group e => alone ((sizes e).1 + states 2)
where
  alone (size : Nat) : Nat × Nat := (size, size + 4)

/-- The bytes for finding an expression anywhere in a text. -/
def size (e : Expr CodeSet Edge) : Nat :=
  (sizes e).1 + states 6 + 16

/-- The greatest size of a pattern, ten mebibytes. -/
def greatestSize : Nat := 10 * 1024 * 1024

end EventRules.Pattern
