import EventRules.Yaml.ScalarText

/-!
# The token stream of a YAML text

Indentation becomes tokens: a block collection starts where its first entry is indented further than
the block around it and ends where a line is indented less. A key without an indicator is known only
by the colon after it, so every token that may start one is remembered as a candidate, and the key
token is put in before it later. A candidate is given up at the end of its line or 1024 characters
on; one that stands where only a key can stand must not be given up.
-/

namespace EventRules.Yaml

/-- A token that may start a key. -/
structure KeyCandidate where
  /-- The number of tokens before it. -/
  position : Nat
  line : Nat
  index : Nat
  column : Nat
  required : Bool

structure Lexer where
  cursor : Cursor
  tokens : Array Token
  /-- The columns of the blocks that are open, innermost first. -/
  indents : List Nat
  /-- A place for a candidate for each flow collection that is open, innermost first, and one for
  the block. -/
  candidates : List (Option KeyCandidate)
  /-- Whether a key may start here. -/
  keyAllowed : Bool

namespace Lexer

def start (text : List Char) : Lexer :=
  { cursor := .start text, tokens := #[], indents := [], candidates := [none], keyAllowed := true }

def inFlow (s : Lexer) : Bool :=
  s.candidates.length > 1

/-- The column of the innermost block. -/
def indent? (s : Lexer) : Option Nat :=
  s.indents.head?

def push (s : Lexer) (token : Token) : Lexer :=
  { s with tokens := s.tokens.push token }

def insertAt (s : Lexer) (position : Nat) (token : Token) : Lexer :=
  { s with tokens :=
      s.tokens.extract 0 position ++ #[token] ++ s.tokens.extract position s.tokens.size }

/-- Opens a block at a column that lies further in; its first token has `position` tokens before
it. -/
def openBlock (s : Lexer) (column position : Nat) (token : Token) : Lexer :=
  if s.inFlow || s.indent?.any (column ≤ ·) then s
  else { s.insertAt position token with indents := column :: s.indents }

/-- Closes the blocks that `inside` does not keep open, innermost first. -/
def closeBlocks (closes : Nat → Bool) (s : Lexer) : List Nat → Lexer
  | [] => { s with indents := [] }
  | indent :: rest =>
    if closes indent then closeBlocks closes (s.push .blockEnd) rest
    else { s with indents := indent :: rest }

/-- Closes the blocks that lie further in than a column. -/
def closeTo (s : Lexer) (column : Nat) : Lexer :=
  if s.inFlow then s else closeBlocks (column < ·) s s.indents

def closeAll (s : Lexer) : Lexer :=
  if s.inFlow then s else closeBlocks (fun _ => true) s s.indents

/-- Gives up the innermost candidate, unless it is required. -/
def dropCandidate (s : Lexer) : Option Lexer :=
  match s.candidates with
  | some candidate :: rest =>
    if candidate.required then none else some { s with candidates := none :: rest }
  | _ => some s

/-- Whether a candidate is out of reach. -/
def isStale (s : Lexer) (k : KeyCandidate) : Bool :=
  k.line < s.cursor.line || k.index + 1024 < s.cursor.index

/-- Gives up the candidates that are out of reach. -/
def dropStale (s : Lexer) : Option Lexer :=
  if s.candidates.any fun k => k.any fun k => s.isStale k && k.required then none
  else some { s with candidates := s.candidates.map fun k => k.filter fun k => !s.isStale k }

/-- Remembers the next token as a candidate. -/
def saveCandidate (s : Lexer) : Option Lexer :=
  if !s.keyAllowed then some s
  else do
    let s ← s.dropCandidate
    let required := !s.inFlow && s.indent? == some s.cursor.column
    let candidate : KeyCandidate :=
      ⟨s.tokens.size, s.cursor.line, s.cursor.index, s.cursor.column, required⟩
    some { s with candidates := some candidate :: s.candidates.drop 1 }

/-- A token of `length` characters after which keys are allowed or not. -/
def take (s : Lexer) (token : Token) (length : Nat) (keyAllowed : Bool) : Lexer :=
  { s.push token with cursor := s.cursor.skip length, keyAllowed }

/-- What a reader yields becomes the next token. -/
def takeRead {α : Type} (s : Lexer) (reader : Reader α) (token : α → Token) (keyAllowed : Bool) :
    Option Lexer :=
  (reader s.cursor).map fun (a, after) => { s.push (token a) with cursor := after, keyAllowed }

/-- White space and comments; a break in a block allows keys. Each step passes a character. -/
def skipSpace : Nat → Lexer → Lexer
  | 0, s => s
  | steps + 1, s =>
    let c := s.cursor
    let c := if c.column == 0 && c.at? '\ufeff' then c.skip 1 else c
    let c := c.skipWhile fun d => d == ' ' || (d == '\t' && (s.inFlow || !s.keyAllowed))
    let c := if c.at? '#' then c.skipWhile (!isBreak ·) else c
    if c.atBreak then
      skipSpace steps { s with cursor := c.nextLine.2, keyAllowed := s.keyAllowed || !s.inFlow }
    else { s with cursor := c }

def flowStart (s : Lexer) (token : Token) : Option Lexer := do
  let s ← s.saveCandidate
  some ({ s with candidates := none :: s.candidates }.take token 1 true)

def flowEnd (s : Lexer) (token : Token) : Option Lexer := do
  let s ← s.dropCandidate
  let outer := if s.inFlow then s.candidates.drop 1 else s.candidates
  some ({ s with candidates := outer }.take token 1 false)

def flowEntry (s : Lexer) : Option Lexer := do
  let s ← s.dropCandidate
  some (s.take .flowEntry 1 true)

/-- The indicator of an entry or a key opens a block in its column. -/
def openEntry (s : Lexer) (token : Token) : Option Lexer :=
  if s.inFlow then some s
  else if !s.keyAllowed then none
  else some (s.openBlock s.cursor.column s.tokens.size token)

def blockEntry (s : Lexer) : Option Lexer := do
  let s ← (← s.openEntry .blockSequenceStart).dropCandidate
  some (s.take .blockEntry 1 true)

def keyIndicator (s : Lexer) : Option Lexer := do
  let s ← (← s.openEntry .blockMappingStart).dropCandidate
  some (s.take .key 1 !s.inFlow)

/-- A colon makes the candidate a key. -/
def valueIndicator (s : Lexer) : Option Lexer :=
  match s.candidates with
  | some k :: rest =>
    let s := { s with candidates := none :: rest }
    let s := (s.insertAt k.position .key).openBlock k.column k.position .blockMappingStart
    some (s.take .value 1 false)
  | _ => do
    let s ← s.openEntry .blockMappingStart
    some (s.take .value 1 !s.inFlow)

/-- A token that may start a key and after which none may start. -/
def keyStart {α : Type} (s : Lexer) (reader : Reader α) (token : α → Token) : Option Lexer := do
  let s ← s.saveCandidate
  s.takeRead reader token false

def plain (s : Lexer) : Option Lexer := do
  let s ← s.saveCandidate
  let ((text, endsLine), after) ← Plain.read s.inFlow (s.indent?.elim 0 (· + 1)) s.cursor
  some { s.push (.scalar text .plain) with cursor := after, keyAllowed := endsLine }

def blockScalar (s : Lexer) (literal : Bool) : Option Lexer := do
  let s ← s.dropCandidate
  s.takeRead (Block.read literal s.indent?)
    (fun text => .scalar text (if literal then .literal else .folded)) true

/-- Ends all blocks before a token that stands outside of any. -/
def leaveBlocks (s : Lexer) : Option Lexer :=
  s.closeAll.dropCandidate

def directive (s : Lexer) : Option Lexer := do
  let s ← s.leaveBlocks
  s.takeRead readDirective id false

def documentMarker (s : Lexer) (token : Token) : Option Lexer := do
  let s ← s.leaveBlocks
  some (s.take token 3 false)

/-- Whether a plain scalar may start with `d` at the cursor. -/
def startsPlain (s : Lexer) (d : Char) : Bool :=
  !(isSpace d || "-?:,[]\x7b\x7d#&*!|>'\"%@\u0060".toList.contains d)
    || (d == '-' && !(s.cursor.peek? 1).any isBlank)
    || (!s.inFlow && (d == '?' || d == ':') && !s.cursor.spaceOrEnd 1)

/-- The token that starts with `d` at the cursor. -/
def next (s : Lexer) (d : Char) : Option Lexer :=
  let c := s.cursor
  if c.column == 0 && d == '%' then s.directive
  else if c.atMarker '-' then s.documentMarker .documentStart
  else if c.atMarker '.' then s.documentMarker .documentEnd
  else if d == '[' then s.flowStart .flowSequenceStart
  else if d == '\x7b' then s.flowStart .flowMappingStart
  else if d == ']' then s.flowEnd .flowSequenceEnd
  else if d == '\x7d' then s.flowEnd .flowMappingEnd
  else if d == ',' then s.flowEntry
  else if d == '-' && c.spaceOrEnd 1 then s.blockEntry
  else if d == '?' && (s.inFlow || c.spaceOrEnd 1) then s.keyIndicator
  else if d == ':' && (s.inFlow || c.spaceOrEnd 1) then s.valueIndicator
  else if d == '*' then s.keyStart readName .alias
  else if d == '&' then s.keyStart readName .anchor
  else if d == '!' then s.keyStart (readTag s.inFlow) id
  else if d == '|' && !s.inFlow then s.blockScalar true
  else if d == '>' && !s.inFlow then s.blockScalar false
  else if d == '\'' then s.keyStart (Quoted.read true) (.scalar · .singleQuoted)
  else if d == '"' then s.keyStart (Quoted.read false) (.scalar · .doubleQuoted)
  else if s.startsPlain d then s.plain
  else none

def finish (s : Lexer) : Option (List Token) :=
  s.leaveBlocks.map fun s => s.tokens.toList

/-- Reads tokens to the end of the text; each step passes a character. -/
def run : Nat → Lexer → Option (List Token)
  | 0, _ => none
  | steps + 1, s =>
    match (skipSpace (s.cursor.rest.length + 1) s).dropStale with
    | none => none
    | some s =>
      let s := s.closeTo s.cursor.column
      match s.cursor.peek? 0 with
      | none => s.finish
      | some d =>
        match s.next d with
        | some s => run steps s
        | none => none

end Lexer

def tokens? (text : List Char) : Option (List Token) :=
  if text.all isAllowed then Lexer.run (text.length + 1) (.start text) else none

end EventRules.Yaml
