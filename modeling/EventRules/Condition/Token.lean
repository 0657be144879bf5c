import EventRules.Text.Alphanumeric
import EventRules.Text.Digits
import EventRules.Text.Quoted

/-!
# Tokens of a condition

A condition is read one character at a time by `Scanner.step`, so that reading is a fold: a number
or a word ends where a character comes that does not belong to it.
-/

namespace EventRules.Condition

inductive Token where
  | identifier (name : String)
  | and
  | or
  | not
  | leftParen
  | rightParen
  | of
  | them
  | all
  | number (count : UInt32)
  | wildcard (pattern : String)
  deriving DecidableEq, Repr

/-- The token as diagnostics show it. -/
def Token.inspect : Token → String
  | identifier name => "Identifier(" ++ Text.quote name ++ ")"
  | and => "And"
  | or => "Or"
  | not => "Not"
  | leftParen => "LeftParen"
  | rightParen => "RightParen"
  | of => "Of"
  | them => "Them"
  | all => "All"
  | number count => "Number(" ++ toString count.toNat ++ ")"
  | wildcard pattern => "Wildcard(" ++ Text.quote pattern ++ ")"

inductive ScanFault where
  | unexpectedCharacter (c : Char)
  | invalidCount (digits : String)
  deriving DecidableEq, Repr

def ScanFault.message : ScanFault → String
  | unexpectedCharacter c => s!"Unexpected character in condition: '{c}'"
  | invalidCount digits => s!"Invalid count in condition: {digits}"

/-- What is being read, with its characters in reverse order. -/
inductive Reading where
  | nothing
  | digits (text : List Char)
  | word (text : List Char)
  deriving DecidableEq, Repr

/-- The tokens read so far, latest first, and what is being read. -/
structure Scanner where
  tokens : List Token
  reading : Reading
  deriving DecidableEq, Repr

namespace Scanner

def start : Scanner := ⟨[], .nothing⟩

def isBlank (c : Char) : Bool :=
  c == ' ' || c == '\t' || c == '\n' || c == '\r'

def isWordStart (c : Char) : Bool :=
  c.isAlpha || c == '_' || c == '*'

def isWordPart (c : Char) : Bool :=
  Text.isAlphanumeric c || c == '_' || c == '*' || c == '-'

def wordToken (word : List Char) : Token :=
  match String.ofList word with
  | "and" => .and
  | "or" => .or
  | "not" => .not
  | "of" => .of
  | "them" => .them
  | "all" => .all
  | name => if word.contains '*' then .wildcard name else .identifier name

/-- The token that digits are, if their value fits into a word of 32 bits. -/
def numberToken (digits : List Char) : Except ScanFault Token :=
  match Digits.readAtMost? (UInt32.size - 1) digits with
  | some count => .ok (.number (.ofNat count))
  | none => .error (.invalidCount (.ofList digits))

/-- The tokens up to here, with the one that is being read. -/
def flush (s : Scanner) : Except ScanFault (List Token) :=
  match s.reading with
  | .nothing => .ok s.tokens
  | .digits text => (numberToken text.reverse).map (· :: s.tokens)
  | .word text => .ok (wordToken text.reverse :: s.tokens)

/-- The first character after a token. -/
def fresh (tokens : List Token) (c : Char) : Except ScanFault Scanner :=
  if isBlank c then .ok ⟨tokens, .nothing⟩
  else if c = '(' then .ok ⟨.leftParen :: tokens, .nothing⟩
  else if c = ')' then .ok ⟨.rightParen :: tokens, .nothing⟩
  else if c.isDigit then .ok ⟨tokens, .digits [c]⟩
  else if isWordStart c then .ok ⟨tokens, .word [c]⟩
  else .error (.unexpectedCharacter c)

/-- The reading with one more character, if that belongs to it. -/
def extend? (c : Char) : Reading → Option Reading
  | .nothing => none
  | .digits text => if c.isDigit then some (.digits (c :: text)) else none
  | .word text => if isWordPart c then some (.word (c :: text)) else none

def step (s : Scanner) (c : Char) : Except ScanFault Scanner :=
  match extend? c s.reading with
  | some reading => .ok ⟨s.tokens, reading⟩
  | none => s.flush.bind (fresh · c)

end Scanner

def tokenize (text : List Char) : Except ScanFault (List Token) :=
  (text.foldlM Scanner.step .start).bind fun s => s.flush.map List.reverse

end EventRules.Condition
