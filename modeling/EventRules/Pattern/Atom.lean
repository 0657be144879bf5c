import EventRules.Pattern.Expr
import EventRules.Pattern.Flag
import EventRules.Pattern.Property
import EventRules.Pattern.Spacing
import EventRules.Unicode.CaseFolding

/-!
# Single signs of patterns

An `Atom` is a sign or an escape of a pattern, as it is written. What it stands for depends on the
flags in force: `Atom.expr?` is the expression, and `Atom.members?` what it adds to a bracketed set.

Without the flag for Unicode a pattern is about bytes. It may not match a part of a character, so
whatever holds of a byte that is not ASCII is refused.
-/

namespace EventRules.Pattern

/-- The kinds of character with a letter of their own. -/
inductive Shorthand where
  | digit
  | space
  | word
  deriving DecidableEq, Repr

def Shorthand.chars (unicode : Bool) : Shorthand → CodeSet
  | digit => if unicode then Unicode.Category.decimalNumber else .ofRange 0x30 0x39
  | space => if unicode then Unicode.Property.whiteSpace else .ofRanges [(0x9, 0xD), (0x20, 0x20)]
  | word => if unicode then wordChars else asciiWordChars

inductive Atom where
  | char (c : Char)
  /-- Two hexadecimal digits, which are a byte or a character. -/
  | byte (c : Char)
  | dot
  | caret
  | dollar
  | textStart
  | textEnd
  | word (edge : WordEdge)
  | shorthand (kind : Shorthand) (negated : Bool)
  /-- The content of the braces of `\p`. -/
  | property (content : List Char) (negated : Bool)
  deriving DecidableEq, Repr

/-- A set with its members in either case, if the flags say so. -/
def Flags.fold (flags : Flags) (s : CodeSet) : CodeSet :=
  if !flags.ignoreCase then s
  else if flags.unicode then s.closeCase
  else s.closeAsciiCase

/-- A set or its complement. There is no complement in bytes, as some members are not ASCII. -/
def Flags.negate? (flags : Flags) (negated : Bool) (s : CodeSet) : Option CodeSet :=
  if !negated then some s
  else if flags.unicode then some s.complement
  else none

namespace Atom

/-- The character that the atom is, if it is one. -/
def char? : Atom → Option Char
  | char c => some c
  | byte c => some c
  | _ => none

/-- What the atom adds to a bracketed set. -/
def members? (flags : Flags) : Atom → Option CodeSet
  | char c => if flags.unicode || c.toNat < 128 then some (.singleton c) else none
  | byte c => if flags.unicode || c.toNat < 128 then some (.singleton c) else none
  | shorthand kind negated => flags.negate? negated (kind.chars flags.unicode)
  | property content negated =>
    if flags.unicode then (propertySet? content).bind fun s => flags.negate? negated (flags.fold s)
    else none
  | _ => none

/-- The characters that are no line breaks, or all. -/
def dotChars (flags : Flags) : CodeSet :=
  if flags.dotAll then .scalars
  else if flags.pairedBreaks then (CodeSet.ofRanges [(0xA, 0xA), (0xD, 0xD)]).complement
  else (CodeSet.singleton '\n').complement

def expr? (flags : Flags) : Atom → Option (Expr CodeSet Edge)
  | char c => some (.one (if flags.unicode || c.toNat < 128 then flags.fold (.singleton c)
      else .singleton c))
  | byte c => if flags.unicode || c.toNat < 128 then some (.one (flags.fold (.singleton c))) else none
  | dot => if flags.unicode then some (.one (dotChars flags)) else none
  | caret => some (.edge (if flags.multiLine then .lineStart flags.pairedBreaks else .textStart))
  | dollar => some (.edge (if flags.multiLine then .lineEnd flags.pairedBreaks else .textEnd))
  | textStart => some (.edge .textStart)
  | textEnd => some (.edge .textEnd)
  | word edge => some (.edge (.word edge flags.unicode))
  | atom => (atom.members? flags).map .one

end Atom

/-- The signs that have a meaning unless a backslash is before them. -/
def isSign (c : Char) : Bool :=
  "\\.+*?()|[]{}^$#&-~".toList.contains c

/-- ASCII characters that stand for themselves after a backslash. -/
def isEscapable (c : Char) : Bool :=
  isSign c || (c.toNat < 128 && !c.isAlphanum && c != '<' && c != '>')

/-- A character from its number in hexadecimal. -/
def charOfHex? (digits : List Char) : Option Char :=
  (Digits.read? 16 digits).bind fun n => if n.isValidChar then some (.ofNat n) else none

/-- A number after `\x`, `\u` or `\U`: in braces, or with `n` digits. -/
def readHex? (spaced : Bool) (n : Nat) (text : List Char) : Option (Atom × List Char) :=
  match skip spaced text with
  | '{' :: rest =>
    (braced? spaced rest).bind fun (digits, rest) =>
      (charOfHex? digits).map fun c => (.char c, rest)
  | text =>
    (takeSpaced? spaced n text).bind fun (digits, rest) =>
      (charOfHex? digits).map fun c => (if n = 2 then .byte c else .char c, rest)

/-- A property after `\p` or `\P`: in braces, or one letter. -/
def readProperty? (spaced negated : Bool) (text : List Char) : Option (Atom × List Char) :=
  match skip spaced text with
  | [] => none
  | '{' :: rest => (braced? spaced rest).map fun (content, rest) => (.property content negated, rest)
  | c :: rest => if c = '\\' then none else some (.property [c] negated, rest)

/-- A letter or minus of the names of word edges. -/
def isEdgeLetter (c : Char) : Bool :=
  c.isAlpha || c == '-'

/-- The edge that `\b` asks for. Braces after it hold a name if a letter is first in them; otherwise
they are a count. -/
def readBoundary? (spaced : Bool) (text : List Char) : Option (Atom × List Char) :=
  match text with
  | '{' :: rest =>
    match skip spaced rest with
    | [] => none
    | c :: inner =>
      if isEdgeLetter c then
        match spanSpaced spaced isEdgeLetter (inner.length + 1) (c :: inner) with
        | (name, '}' :: rest) =>
          match String.ofList name with
          | "start" => some (.word .start, rest)
          | "end" => some (.word .ending, rest)
          | "start-half" => some (.word .startHalf, rest)
          | "end-half" => some (.word .endingHalf, rest)
          | _ => none
        | _ => none
      else some (.word .boundary, text)
  | _ => some (.word .boundary, text)

/-- The escape whose backslash is read. -/
def readEscape? (spaced : Bool) : List Char → Option (Atom × List Char)
  | [] => none
  | c :: rest =>
    if isEscapable c then some (.char c, rest)
    else
      match c with
      | 'x' => readHex? spaced 2 rest
      | 'u' => readHex? spaced 4 rest
      | 'U' => readHex? spaced 8 rest
      | 'p' => readProperty? spaced false rest
      | 'P' => readProperty? spaced true rest
      | 'd' => some (.shorthand .digit false, rest)
      | 'D' => some (.shorthand .digit true, rest)
      | 's' => some (.shorthand .space false, rest)
      | 'S' => some (.shorthand .space true, rest)
      | 'w' => some (.shorthand .word false, rest)
      | 'W' => some (.shorthand .word true, rest)
      | 'a' => some (.char '\x07', rest)
      | 'f' => some (.char '\x0C', rest)
      | 't' => some (.char '\t', rest)
      | 'n' => some (.char '\n', rest)
      | 'r' => some (.char '\r', rest)
      | 'v' => some (.char '\x0B', rest)
      | 'A' => some (.textStart, rest)
      | 'z' => some (.textEnd, rest)
      | 'b' => readBoundary? spaced rest
      | 'B' => some (.word .noBoundary, rest)
      | '<' => some (.word .start, rest)
      | '>' => some (.word .ending, rest)
      | _ => none

end EventRules.Pattern
