/-!
# Name patterns

A star in a pattern stands for any characters, also for none. `Glob.rests` follows all ways to
read a pattern at once: the rests of a name that a part of the pattern leaves are known by the
longest one when a star comes, since all the shorter ones are among its rests.
-/

namespace EventRules.Glob

/-- All rests of a name, longest first. -/
def tails : List Char → List (List Char)
  | [] => [[]]
  | c :: rest => (c :: rest) :: tails rest

/-- What is left of a name after one character of a pattern. -/
def dropChar? (c : Char) : List Char → Option (List Char)
  | [] => none
  | d :: rest => if d = c then some rest else none

/-- What a pattern leaves of any of some names, which are rests of one another, longest first. -/
def rests : List Char → List (List Char) → List (List Char)
  | [], names => names
  | c :: pattern, names =>
    if c = '*' then rests pattern (names.head?.elim [] tails)
    else rests pattern (names.filterMap (dropChar? c))

def accepts (pattern name : String) : Bool :=
  (rests pattern.toList [name.toList]).contains []

end EventRules.Glob
