import EventRules.Text.Trim

/-!
# Blanks between the signs of a pattern

A spaced pattern may have white space and comments between its signs, also inside escapes, counts
and names. `#` starts a comment, which lasts to the end of its line.
-/

namespace EventRules.Pattern

/-- The text after the blanks in front of it; `comment` is whether it starts inside a comment. -/
def skipBlanks (comment : Bool) : List Char → List Char
  | [] => []
  | c :: rest =>
    if comment then skipBlanks (c != '\n') rest
    else if Text.isBlank c then skipBlanks false rest
    else if c = '#' then skipBlanks true rest
    else c :: rest

/-- The text after blanks, if the pattern is spaced. -/
def skip (spaced : Bool) (text : List Char) : List Char :=
  if spaced then skipBlanks false text else text

/-- The characters in front that satisfy `p`, and the text after them; blanks after each of them are
passed over. Each round takes a character, so `fuel` is the length of the text. -/
def spanSpaced (spaced : Bool) (p : Char → Bool) : Nat → List Char → List Char × List Char
  | fuel + 1, c :: rest =>
    if p c then
      let (taken, after) := spanSpaced spaced p fuel (skip spaced rest)
      (c :: taken, after)
    else ([], c :: rest)
  | _, text => ([], text)

/-- The first `n` characters, blanks after each of them passed over. -/
def takeSpaced? (spaced : Bool) : Nat → List Char → Option (List Char × List Char)
  | 0, text => some ([], text)
  | _ + 1, [] => none
  | n + 1, c :: rest =>
    (takeSpaced? spaced n (skip spaced rest)).map fun (taken, after) => (c :: taken, after)

/-- The content of braces whose opening one is read, and the text after the closing one. -/
def braced? (spaced : Bool) (text : List Char) : Option (List Char × List Char) :=
  let text := skip spaced text
  match spanSpaced spaced (· != '}') text.length text with
  | (content, '}' :: rest) => some (content, rest)
  | _ => none

end EventRules.Pattern
