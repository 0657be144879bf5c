import EventRules.Unicode.CodeSet

/-!
# Intervals of code points in UTF-8

The encodings of an interval are those of a few sequences of byte ranges, in which each byte runs
through its range on its own: `800-FFF` is `E0 [A0-BF] [80-BF]`.
-/

namespace EventRules.Unicode

/-- The bytes from the first to the second. -/
abbrev ByteRange := Nat × Nat

namespace ByteRange

/-- Any bytes that continue an encoding, `n` of them. -/
def continuation (n : Nat) : List ByteRange :=
  List.replicate n (0x80, 0xBF)

/-- The sequences for the values `low` to `high` of a byte with `mark` above its own bits and `n`
bytes with six bits each after it. -/
def sequences (mark : Nat) : Nat → Nat → Nat → List (List ByteRange)
  | 0, low, high => [[(mark + low, mark + high)]]
  | n + 1, low, high =>
    let unit := Nat.pow 64 (n + 1)
    let first := low / unit
    let last := high / unit
    if first = last then
      (sequences 0x80 n (low % unit) (high % unit)).map ((mark + first, mark + first) :: ·)
    else
      let opening := if low % unit = 0 then []
        else (sequences 0x80 n (low % unit) (unit - 1)).map ((mark + first, mark + first) :: ·)
      let closing := if high % unit = unit - 1 then []
        else (sequences 0x80 n 0 (high % unit)).map ((mark + last, mark + last) :: ·)
      let start := if low % unit = 0 then first else first + 1
      let upTo := if high % unit = unit - 1 then last + 1 else last
      let middle := if start < upTo
        then [(mark + start, mark + upTo - 1) :: continuation (n + 1)] else []
      opening ++ middle ++ closing

/-- The forms of encodings: the code points that have it, the mark of its first byte, and how many
bytes follow. -/
def forms : List ((Nat × Nat) × Nat × Nat) :=
  [((0, 0x7F), 0, 0), ((0x80, 0x7FF), 0xC0, 1), ((0x800, 0xFFFF), 0xE0, 2),
    ((0x10000, 0x10FFFF), 0xF0, 3)]

/-- The sequences for a set of scalar values, in order. -/
def ofSet (s : CodeSet) : List (List ByteRange) :=
  (s ∩ .scalars).ranges.flatMap fun (low, high) =>
    forms.flatMap fun ((least, greatest), mark, n) =>
      if max low least ≤ min high greatest
      then sequences mark n (max low least) (min high greatest) else []

end ByteRange

end EventRules.Unicode
