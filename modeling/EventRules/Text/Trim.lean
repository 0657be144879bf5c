import EventRules.Unicode.Property

/-!
# White space and trimming
-/

namespace EventRules.Text

/-- A character with the Unicode property White_Space. -/
def isBlank (c : Char) : Bool :=
  Unicode.Property.whiteSpace.contains c

/-- The text without the white space at its two ends. -/
def trim (text : List Char) : List Char :=
  ((text.dropWhile isBlank).reverse.dropWhile isBlank).reverse

/-- What stands before and after the first occurrence of `c`, if there is one. -/
def cut? (c : Char) : List Char → Option (List Char × List Char)
  | [] => none
  | d :: rest => if d = c then some ([], rest) else (cut? c rest).map fun (a, b) => (d :: a, b)

end EventRules.Text
