import EventRules.Text.Digits

/-!
# Places in a YAML text

A `Cursor` is a place in a text with its line and column. Lines end with any of five breaks; a
carriage return and a line feed together are one.
-/

namespace EventRules.Yaml

def isBreak (c : Char) : Bool :=
  c == '\r' || c == '\n' || c == '\u0085' || c == '\u2028' || c == '\u2029'

def isBlank (c : Char) : Bool :=
  c == ' ' || c == '\t'

def isSpace (c : Char) : Bool :=
  isBlank c || isBreak c

/-- A character of the names of anchors, directives and tag handles. -/
def isWordChar (c : Char) : Bool :=
  c.isAlphanum || c == '_' || c == '-'

/-- A character that a text may hold. -/
def isAllowed (c : Char) : Bool :=
  let n := c.toNat
  c == '\t' || c == '\n' || c == '\r' || (0x20 ≤ n && n ≤ 0x7E) || n == 0x85
    || (0xA0 ≤ n && n ≤ 0xD7FF) || (0xE000 ≤ n && n ≤ 0xFFFD) || 0x10000 ≤ n

/-- What a break counts as in the text of a scalar. -/
def breakText (c : Char) : Char :=
  if c == '\r' || c == '\u0085' then '\n' else c

structure Cursor where
  rest : List Char
  /-- How many characters stand before the place. -/
  index : Nat
  line : Nat
  column : Nat

namespace Cursor

def start (text : List Char) : Cursor := ⟨text, 0, 0, 0⟩

/-- The character at the place, or `n` further on. -/
def peek? (c : Cursor) (n : Nat) : Option Char :=
  c.rest[n]?

def at? (c : Cursor) (d : Char) : Bool :=
  c.peek? 0 == some d

/-- Whether the character `n` further on is white space, or there is none. -/
def spaceOrEnd (c : Cursor) (n : Nat) : Bool :=
  (c.peek? n).all isSpace

def breakOrEnd (c : Cursor) : Bool :=
  (c.peek? 0).all isBreak

def atBlank (c : Cursor) : Bool :=
  (c.peek? 0).any isBlank

def atBreak (c : Cursor) : Bool :=
  (c.peek? 0).any isBreak

def atEnd (c : Cursor) : Bool :=
  c.rest.isEmpty

/-- The place `n` characters further on in the line. -/
def skip (c : Cursor) (n : Nat) : Cursor :=
  ⟨c.rest.drop n, c.index + n, c.line, c.column + n⟩

/-- The characters from here on that are of a kind, and the place after them. None of them may be a
break. -/
def takeWhile (c : Cursor) (kind : Char → Bool) : List Char × Cursor :=
  let taken := c.rest.takeWhile kind
  (taken, c.skip taken.length)

def skipWhile (c : Cursor) (kind : Char → Bool) : Cursor :=
  (c.takeWhile kind).2

/-- The start of the next line and the text of the break before it, at a break. -/
def nextLine (c : Cursor) : List Char × Cursor :=
  match c.rest with
  | '\r' :: '\n' :: rest => (['\n'], ⟨rest, c.index + 2, c.line + 1, 0⟩)
  | d :: rest => if isBreak d then ([breakText d], ⟨rest, c.index + 1, c.line + 1, 0⟩) else ([], c)
  | [] => ([], c)

/-- Whether three of a character stand here at the start of a line, and white space or nothing
after them. -/
def atMarker (c : Cursor) (d : Char) : Bool :=
  c.column == 0 && c.rest.take 3 == [d, d, d] && c.spaceOrEnd 3

/-- Whether a document starts or ends here. -/
def atDocumentMarker (c : Cursor) : Bool :=
  c.atMarker '-' || c.atMarker '.'

end Cursor

end EventRules.Yaml
