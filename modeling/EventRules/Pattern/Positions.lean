/-!
# Sets of positions in a text

A text of `n` characters has the positions `0` to `n`. A set of them is a natural number: position
`i` belongs to it if bit `i` is set. So a union is `|||`, an intersection is `&&&`, and reading one
character from every position at once is a shift.
-/

namespace EventRules.Pattern

/-- A set of positions, as the number whose bits are its members. -/
abbrev Positions := Nat

namespace Positions

def all (length : Nat) : Positions :=
  Nat.pow 2 (length + 1) - 1

/-- The positions whose neighbours satisfy `p`. The character before the text is `before`. -/
def sift (p : Option Char → Option Char → Bool) (before : Option Char) : List Char → Positions
  | [] => (p before none).toNat
  | c :: rest => (p before (some c)).toNat + 2 * sift p (some c) rest

/-- `n` steps; standing still ends them early. -/
def steps (step : Positions → Positions) : Nat → Positions → Positions
  | 0, s => s
  | n + 1, s =>
    let next := step s
    if next = s then s else steps step n next

/-- What at most `n` steps reach; standing still ends them early. -/
def spread (step : Positions → Positions) : Nat → Positions → Positions
  | 0, s => s
  | n + 1, s =>
    let next := s ||| step s
    if next = s then s else spread step n next

end Positions

end EventRules.Pattern
