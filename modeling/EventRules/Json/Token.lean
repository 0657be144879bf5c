import EventRules.Text.Digits

/-!
# Tokens of JSON text

The text is read one character at a time by `Scanner.step`, so that scanning is a fold over it.
A token ends where its last character stands, a number or a word where the next character is not
one of its own.

A string token holds what the text says piece by piece. An escape with a code is one UTF-16 unit,
and pieces denote text only if the surrogates among these units come in pairs (`Piece.decode?`).
-/

namespace EventRules.Json

/-- Part of a string: a character, or the UTF-16 unit of an escape with a code. -/
inductive Piece where
  | char (c : Char)
  | unit (code : Nat)
  deriving DecidableEq, Repr

inductive Token where
  | openArray
  | closeArray
  | openObject
  | closeObject
  | comma
  | colon
  | word (text : List Char)
  | number (text : List Char)
  | string (pieces : List Piece)
  deriving DecidableEq, Repr

namespace Piece

def isHighSurrogate (code : Nat) : Bool :=
  0xD800 ≤ code && code ≤ 0xDBFF

def isLowSurrogate (code : Nat) : Bool :=
  0xDC00 ≤ code && code ≤ 0xDFFF

/-- The character that a pair of surrogates stands for. -/
def pair (high low : Nat) : Char :=
  .ofNat (0x10000 + (high - 0xD800) * 0x400 + (low - 0xDC00))

/-- The text of a string; there is none if a surrogate has no partner. -/
def decode? : List Piece → Option (List Char)
  | [] => some []
  | char c :: rest => (decode? rest).map (c :: ·)
  | unit high :: unit low :: rest =>
    if isHighSurrogate high then
      if isLowSurrogate low then (decode? rest).map (pair high low :: ·) else none
    else if isLowSurrogate high then none
    else (decode? (unit low :: rest)).map (.ofNat high :: ·)
  | unit code :: rest =>
    if isHighSurrogate code || isLowSurrogate code then none
    else (decode? rest).map (.ofNat code :: ·)

end Piece

/-- What is being read. Pieces and characters read so far are in reverse order. -/
inductive Reading where
  | nothing
  | word (text : List Char)
  | number (text : List Char)
  | string (pieces : List Piece)
  | escape (pieces : List Piece)
  | code (pieces : List Piece) (digits : List Char)
  deriving DecidableEq, Repr

/-- The tokens read so far, latest first, and what is being read. -/
structure Scanner where
  tokens : List Token
  reading : Reading
  deriving DecidableEq, Repr

namespace Scanner

def start : Scanner := ⟨[], .nothing⟩

def isSpace (c : Char) : Bool :=
  c == ' ' || c == '\n' || c == '\t' || c == '\r'

def isNumberPart (c : Char) : Bool :=
  c.isDigit || c == '-' || c == '+' || c == '.' || c == 'e' || c == 'E'

def mark? : Char → Option Token
  | '[' => some .openArray
  | ']' => some .closeArray
  | '\x7b' => some .openObject
  | '\x7d' => some .closeObject
  | ',' => some .comma
  | ':' => some .colon
  | _ => none

/-- The first character after a token. -/
def fresh? (tokens : List Token) (c : Char) : Option Scanner :=
  match mark? c with
  | some token => some ⟨token :: tokens, .nothing⟩
  | none =>
    if isSpace c then some ⟨tokens, .nothing⟩
    else if c == '"' then some ⟨tokens, .string []⟩
    else if c.isDigit || c == '-' then some ⟨tokens, .number [c]⟩
    else if c.isLower then some ⟨tokens, .word [c]⟩
    else none

/-- What the character after a backslash stands for, unless a code follows it. -/
def escaped? : Char → Option Char
  | '"' => some '"'
  | '\\' => some '\\'
  | '/' => some '/'
  | 'b' => some '\x08'
  | 'f' => some '\x0c'
  | 'n' => some '\n'
  | 'r' => some '\r'
  | 't' => some '\t'
  | _ => none

/-- One more digit of a code; the fourth one ends it. -/
def code? (tokens : List Token) (pieces : List Piece) (digits : List Char) (c : Char) :
    Option Scanner :=
  if (Digits.valueOf? 16 c).isNone then none
  else if digits.length < 3 then some ⟨tokens, .code pieces (c :: digits)⟩
  else (Digits.read? 16 (c :: digits).reverse).map fun code =>
    ⟨tokens, .string (.unit code :: pieces)⟩

def step? (s : Scanner) (c : Char) : Option Scanner :=
  match s.reading with
  | .nothing => fresh? s.tokens c
  | .word text =>
    if c.isLower then some ⟨s.tokens, .word (c :: text)⟩
    else fresh? (.word text.reverse :: s.tokens) c
  | .number text =>
    if isNumberPart c then some ⟨s.tokens, .number (c :: text)⟩
    else fresh? (.number text.reverse :: s.tokens) c
  | .string pieces =>
    if c == '"' then some ⟨.string pieces.reverse :: s.tokens, .nothing⟩
    else if c == '\\' then some ⟨s.tokens, .escape pieces⟩
    else if c.toNat < 0x20 then none
    else some ⟨s.tokens, .string (.char c :: pieces)⟩
  | .escape pieces =>
    if c == 'u' then some ⟨s.tokens, .code pieces []⟩
    else (escaped? c).map fun d => ⟨s.tokens, .string (.char d :: pieces)⟩
  | .code pieces digits => code? s.tokens pieces digits c

/-- The end of the text ends a word or a number, but no string. -/
def finish? (s : Scanner) : Option (List Token) :=
  match s.reading with
  | .nothing => some s.tokens.reverse
  | .word text => some (.word text.reverse :: s.tokens).reverse
  | .number text => some (.number text.reverse :: s.tokens).reverse
  | _ => none

end Scanner

def tokens? (text : List Char) : Option (List Token) :=
  (text.foldlM Scanner.step? .start).bind Scanner.finish?

end EventRules.Json
