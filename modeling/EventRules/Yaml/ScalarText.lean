import EventRules.Yaml.Token

/-!
# The text of scalars

Plain, quoted and block scalars as they stand in a text, with their lines folded. A single break
between two lines of a folded text counts as a space, and of more breaks the first is dropped; a
break that separates lines or paragraphs by itself is kept.
-/

namespace EventRules.Yaml

/-- The white space between two pieces of a scalar: blanks within a line, or breaks. -/
structure Gap where
  blanks : List Char
  /-- The first break. -/
  first : List Char
  /-- The breaks after it. -/
  more : List Char
  /-- Whether a line has ended. -/
  broken : Bool

namespace Gap

def none : Gap := ⟨[], [], [], false⟩

/-- What the gap counts as in the text of a scalar. -/
def text (g : Gap) : List Char :=
  if !g.broken then g.blanks
  else if g.first == ['\n'] then if g.more.isEmpty then [' '] else g.more
  else g.first ++ g.more

/-- Reads a gap to its end. A tab among the blanks that a line starts with, before the column
`tabLimit`, is an error. Each step passes a character. -/
def readFrom (tabLimit : Nat) : Nat → Gap → Cursor → Option (Gap × Cursor)
  | 0, g, c => some (g, c)
  | steps + 1, g, c =>
    match c.peek? 0 with
    | Option.none => some (g, c)
    | some d =>
      if isBlank d then
        if g.broken then
          if d == '\t' && c.column < tabLimit then Option.none else readFrom tabLimit steps g (c.skip 1)
        else readFrom tabLimit steps { g with blanks := g.blanks ++ [d] } (c.skip 1)
      else if isBreak d then
        let (text, after) := c.nextLine
        if g.broken then readFrom tabLimit steps { g with more := g.more ++ text } after
        else readFrom tabLimit steps ⟨[], text, [], true⟩ after
      else some (g, c)

def read (tabLimit : Nat) (g : Gap) (c : Cursor) : Option (Gap × Cursor) :=
  readFrom tabLimit (c.rest.length + 1) g c

end Gap

/-! ## Quoted scalars -/

namespace Quoted

/-- The character that a letter after a backslash stands for. -/
def escaped? : Char → Option Char
  | '0' => some '\x00'
  | 'a' => some '\x07'
  | 'b' => some '\x08'
  | 't' => some '\t'
  | '\t' => some '\t'
  | 'n' => some '\n'
  | 'v' => some '\x0b'
  | 'f' => some '\x0c'
  | 'r' => some '\r'
  | 'e' => some '\x1b'
  | ' ' => some ' '
  | '"' => some '"'
  | '/' => some '/'
  | '\\' => some '\\'
  | 'N' => some '\u0085'
  | '_' => some '\u00a0'
  | 'L' => some '\u2028'
  | 'P' => some '\u2029'
  | _ => none

/-- The character with a code in hexadecimal. -/
def coded? (digits : List Char) : Option Char :=
  (Digits.read? 16 digits).bind fun code =>
    if (0xD800 ≤ code && code ≤ 0xDFFF) || code > 0x10FFFF then none else some (.ofNat code)

/-- A piece without white space: its text, whether an escaped break ends it, and what follows. -/
structure Piece where
  text : List Char
  escapedBreak : Bool
  rest : List Char

def Piece.push (c : Char) (p : Piece) : Piece :=
  { p with text := c :: p.text }

/-- A piece between single quotes. -/
def readSingle : List Char → Piece
  | '\'' :: '\'' :: rest => (readSingle rest).push '\''
  | c :: rest => if c == '\'' || isSpace c then ⟨[], false, c :: rest⟩ else (readSingle rest).push c
  | [] => ⟨[], false, []⟩

/-- A piece between double quotes. -/
def readDouble? : List Char → Option Piece
  | '\\' :: 'x' :: a :: b :: rest =>
    match coded? [a, b], readDouble? rest with
    | some c, some p => some (p.push c)
    | _, _ => none
  | '\\' :: 'u' :: a :: b :: c :: d :: rest =>
    match coded? [a, b, c, d], readDouble? rest with
    | some c, some p => some (p.push c)
    | _, _ => none
  | '\\' :: 'U' :: a :: b :: c :: d :: e :: f :: g :: h :: rest =>
    match coded? [a, b, c, d, e, f, g, h], readDouble? rest with
    | some c, some p => some (p.push c)
    | _, _ => none
  | '\\' :: c :: rest =>
    if isBreak c then some ⟨[], true, c :: rest⟩
    else
      match escaped? c, readDouble? rest with
      | some d, some p => some (p.push d)
      | _, _ => none
  | ['\\'] => none
  | c :: rest =>
    if c == '"' || isSpace c then some ⟨[], false, c :: rest⟩ else (readDouble? rest).map (.push c)
  | [] => some ⟨[], false, []⟩

/-- The pieces and gaps up to the closing quote; each step passes a piece or a gap. -/
def readFrom (single : Bool) : Nat → List Char → Cursor → Option (List Char × Cursor)
  | 0, _, _ => none
  | steps + 1, text, c =>
    if c.atDocumentMarker || c.atEnd then none
    else
      match if single then some (readSingle c.rest) else readDouble? c.rest with
      | none => none
      | some piece =>
        let after := c.skip (c.rest.length - piece.rest.length)
        let text := text ++ piece.text
        if piece.escapedBreak then
          match Gap.read 0 ⟨[], [], [], true⟩ after.nextLine.2 with
          | some (gap, after) => readFrom single steps (text ++ gap.text) after
          | none => none
        else if after.at? (if single then '\'' else '"') then some (text, after.skip 1)
        else
          match Gap.read 0 .none after with
          | some (gap, after) => readFrom single steps (text ++ gap.text) after
          | none => none

/-- A quoted scalar. -/
def read (single : Bool) : Reader (List Char) := fun c =>
  readFrom single (c.rest.length + 1) [] (c.skip 1)

end Quoted

/-! ## Plain scalars -/

namespace Plain

def isFlowIndicator (c : Char) : Bool :=
  [',', '[', ']', '\x7b', '\x7d'].contains c

/-- A piece without white space, up to what ends a plain scalar, and what follows. -/
def readPiece? (inFlow : Bool) : List Char → Option (List Char × List Char)
  | [] => some ([], [])
  | c :: rest =>
    if isSpace c then some ([], c :: rest)
    else if inFlow && c == ':' && rest.head?.any (fun d => isFlowIndicator d || d == '?') then none
    else if (c == ':' && rest.head?.all isSpace) || (inFlow && isFlowIndicator c) then
      some ([], c :: rest)
    else (readPiece? inFlow rest).map fun (piece, rest) => (c :: piece, rest)

/-- The rest of a plain scalar after some text and a gap. -/
def readFrom (inFlow : Bool) (indent : Nat) : Nat → List Char → Gap → Cursor →
    Option (List Char × Gap × Cursor)
  | 0, text, gap, c => some (text, gap, c)
  | steps + 1, text, gap, c =>
    if c.atDocumentMarker || c.at? '#' then some (text, gap, c)
    else
      match readPiece? inFlow c.rest with
      | none => none
      | some (piece, rest) =>
        let after := c.skip (c.rest.length - rest.length)
        let (text, gap) :=
          if piece.isEmpty then (text, gap) else (text ++ gap.text ++ piece, Gap.none)
        if !(after.peek? 0).any isSpace then some (text, gap, after)
        else
          match gap.read indent after with
          | none => none
          | some (gap, after) =>
            if !inFlow && after.column < indent then some (text, gap, after)
            else readFrom inFlow indent steps text gap after

/-- A plain scalar in a block that its lines have to be indented to, and whether a line ends after
it. -/
def read (inFlow : Bool) (indent : Nat) : Reader (List Char × Bool) := fun c =>
  (readFrom inFlow indent (c.rest.length + 1) [] .none c).map fun (text, gap, after) =>
    ((text, gap.broken), after)

end Plain

/-! ## Block scalars -/

namespace Block

/-- What becomes of the breaks that a block scalar ends with. -/
inductive Chomping where
  | strip
  | clip
  | keep
  deriving DecidableEq

def chomping? : Char → Option Chomping
  | '+' => some .keep
  | '-' => some .strip
  | _ => none

/-- How far the lines are indented, from a digit. -/
def increment? (c : Char) : Option Nat :=
  if c.isDigit then some (c.toNat - '0'.toNat) else none

/-- The chomping and the indentation after the indicator of a block scalar, in any order. -/
def readHeader : Reader (Chomping × Option Nat) := fun c =>
  let first := c.peek? 0
  let second := c.peek? 1
  let header : Chomping × Option Nat × Nat :=
    match first.bind chomping?, first.bind increment? with
    | some chomping, _ =>
      match second.bind increment? with
      | some n => (chomping, some n, 2)
      | none => (chomping, none, 1)
    | none, some n =>
      match second.bind chomping? with
      | some chomping => (chomping, some n, 2)
      | none => (.clip, some n, 1)
    | none, none => (.clip, none, 0)
  if header.2.1 == some 0 then none else some ((header.1, header.2.1), c.skip header.2.2)

/-- Empty lines: the breaks, and the greatest column that the blanks before one reach. As long as
no indentation is known every space belongs to it. -/
def readBreaks (indent : Option Nat) : Nat → List Char → Nat → Cursor →
    Option (List Char × Nat × Cursor)
  | 0, breaks, widest, c => some (breaks, widest, c)
  | steps + 1, breaks, widest, c =>
    let spaces := (c.rest.takeWhile (· == ' ')).length
    let c := c.skip (match indent with
      | some n => min spaces (n - c.column)
      | none => spaces)
    let widest := max widest c.column
    if (indent.all fun n => c.column < n) && c.at? '\t' then none
    else if c.atBreak then
      let (text, after) := c.nextLine
      readBreaks indent steps (breaks ++ text) widest after
    else some (breaks, widest, c)

/-- The lines of a block scalar. `leading` is the break before the line and `trailing` the empty
lines before it; `blank` says whether the line before starts with a blank. -/
def readLines (literal : Bool) (indent : Nat) : Nat → (text leading trailing : List Char) →
    (blank : Bool) → Cursor → Option (List Char × List Char × List Char × Cursor)
  | 0, text, leading, trailing, _, c => some (text, leading, trailing, c)
  | steps + 1, text, leading, trailing, blank, c =>
    if c.column != indent || c.atEnd then some (text, leading, trailing, c)
    else
      let folds := !literal && leading == ['\n'] && !blank && !c.atBlank
      let joint := if !folds then leading else if trailing.isEmpty then [' '] else []
      let (line, after) := c.takeWhile (!isBreak ·)
      let (lineBreak, after) := after.nextLine
      match readBreaks (some indent) (after.rest.length + 1) [] 0 after with
      | none => none
      | some (breaks, _, next) =>
        readLines literal indent steps (text ++ joint ++ trailing ++ line) lineBreak breaks
          c.atBlank next

/-- A block scalar inside a block that is indented to `parent`, if there is one. -/
def read (literal : Bool) (parent : Option Nat) : Reader (List Char) := fun c => do
  let ((chomping, increment), after) ← readHeader (c.skip 1)
  let after ← readLineEnd after
  let least := max 1 (parent.elim 0 (· + 1))
  let given := increment.map fun n => parent.elim n (· + n)
  let (breaks, widest, after) ← readBreaks given (after.rest.length + 1) [] 0 after
  let indent := given.getD (max least widest)
  let (text, leading, trailing, after) ←
    readLines literal indent (after.rest.length + 1) [] [] breaks false after
  let ending := match chomping with
    | .strip => []
    | .clip => leading
    | .keep => leading ++ trailing
  some (text ++ ending, after)

end Block

end EventRules.Yaml
