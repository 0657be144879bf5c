import EventRules.Text.Digits

/-!
# Sets of code points

A `CodeSet` is a set of Unicode scalar values, held as closed intervals in increasing order with a
gap between any two. `ofRanges` puts any intervals into that form, and the set operations keep it.
Tables of the character database are read from text such as `41-5A 61-7A AA`.
-/

namespace EventRules

/-- Closed intervals of code points, increasing and apart. -/
structure CodeSet where
  ranges : List (Nat × Nat)
  deriving DecidableEq, Repr, Inhabited

namespace CodeSet

def empty : CodeSet := ⟨[]⟩

/-- Every scalar value: all code points but the surrogates. -/
def scalars : CodeSet := ⟨[(0, 0xD7FF), (0xE000, 0x10FFFF)]⟩

def contains (s : CodeSet) (c : Char) : Bool :=
  s.ranges.any fun (low, high) => low ≤ c.toNat && c.toNat ≤ high

def isEmpty (s : CodeSet) : Bool :=
  s.ranges.isEmpty

/-- Joins `r` with the ranges after it as long as they touch; the ranges start in order. -/
def join (r : Nat × Nat) : List (Nat × Nat) → List (Nat × Nat)
  | [] => [r]
  | s :: rest => if s.1 ≤ r.2 + 1 then join (r.1, max r.2 s.2) rest else r :: join s rest

/-- The set that some intervals cover. An interval whose ends are out of order is empty. -/
def ofRanges (ranges : List (Nat × Nat)) : CodeSet :=
  match (ranges.filter fun r => r.1 ≤ r.2).mergeSort (fun a b => a.1 ≤ b.1) with
  | [] => empty
  | r :: rest => ⟨join r rest⟩

def ofRange (low high : Nat) : CodeSet :=
  ofRanges [(low, high)]

def singleton (c : Char) : CodeSet :=
  ⟨[(c.toNat, c.toNat)]⟩

def union (a b : CodeSet) : CodeSet :=
  ofRanges (a.ranges ++ b.ranges)

instance : Union CodeSet := ⟨union⟩

/-- The overlaps of one interval with a list of them. -/
def overlaps (r : Nat × Nat) (ranges : List (Nat × Nat)) : List (Nat × Nat) :=
  ranges.filterMap fun s =>
    if max r.1 s.1 ≤ min r.2 s.2 then some (max r.1 s.1, min r.2 s.2) else none

def intersect (a b : CodeSet) : CodeSet :=
  ofRanges (a.ranges.flatMap (overlaps · b.ranges))

instance : Inter CodeSet := ⟨intersect⟩

/-- The gaps from `start` on between the ranges, up to the last code point. -/
def gaps (start : Nat) : List (Nat × Nat) → List (Nat × Nat)
  | [] => [(start, 0x10FFFF)]
  | (low, high) :: rest => (if start < low then [(start, low - 1)] else []) ++ gaps (high + 1) rest

def complement (s : CodeSet) : CodeSet :=
  scalars ∩ ofRanges (gaps 0 s.ranges)

def difference (a b : CodeSet) : CodeSet :=
  a ∩ b.complement

instance : SDiff CodeSet := ⟨difference⟩

def symmetricDifference (a b : CodeSet) : CodeSet :=
  (a ∪ b) \ (a ∩ b)

def size (s : CodeSet) : Nat :=
  s.ranges.foldr (fun r size => r.2 + 1 - r.1 + size) 0

def toList (s : CodeSet) : List Nat :=
  s.ranges.flatMap fun r => (List.range (r.2 + 1 - r.1)).map (r.1 + ·)

/-- Words of a text, cut at spaces and line ends. -/
def words (text : List Char) : List (List Char) :=
  (text.splitOnP fun c => c == ' ' || c == '\n').filter (!·.isEmpty)

/-- One entry of a table: a code point, or the two ends of an interval, in hexadecimal. -/
def readEntry? (entry : List Char) : Option (Nat × Nat) :=
  match entry.splitOn '-' with
  | [one] => (Digits.read? 16 one).map fun n => (n, n)
  | [low, high] =>
    match Digits.read? 16 low, Digits.read? 16 high with
    | some low, some high => some (low, high)
    | _, _ => none
  | _ => none

/-- A table of intervals in increasing order; what is no entry is passed over. -/
def ofTable (text : String) : CodeSet :=
  ⟨(words text.toList).filterMap readEntry?⟩

end CodeSet

end EventRules
