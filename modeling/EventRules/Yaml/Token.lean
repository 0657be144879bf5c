import EventRules.Yaml.Cursor

/-!
# YAML tokens

The tokens of a text, and the readers of those that are not scalars: directives, anchors and tags.
-/

namespace EventRules.Yaml

inductive ScalarStyle where
  | plain
  | singleQuoted
  | doubleQuoted
  | literal
  | folded
  deriving DecidableEq, Repr

inductive Token where
  | versionDirective (major minor : Nat)
  | tagDirective (handle tagPrefix : List Char)
  | documentStart
  | documentEnd
  | blockSequenceStart
  | blockMappingStart
  | blockEnd
  | flowSequenceStart
  | flowSequenceEnd
  | flowMappingStart
  | flowMappingEnd
  | blockEntry
  | flowEntry
  | key
  | value
  | alias (name : List Char)
  | anchor (name : List Char)
  | tag (handle suffix : List Char)
  | scalar (text : List Char) (style : ScalarStyle)
  deriving DecidableEq, Repr

/-- A reader takes what it accepts at a place and leads to the place after it. -/
abbrev Reader (α : Type) := Cursor → Option (α × Cursor)

/-- What may follow the name of an anchor or an alias. -/
def endsName (c : Cursor) : Bool :=
  (c.peek? 0).all fun d =>
    isSpace d || ['?', ':', ',', ']', '\x7d', '%', '@', '\u0060'].contains d

/-- The name of an anchor or an alias, after its indicator. -/
def readName : Reader (List Char) := fun c =>
  let (name, after) := (c.skip 1).takeWhile isWordChar
  if name.isEmpty || !endsName after then none else some (name, after)

/-- A number of at most nine digits. -/
def readVersionNumber : Reader Nat := fun c =>
  let (digits, after) := c.takeWhile Char.isDigit
  if digits.length > 9 then none else (Digits.read? 10 digits).map fun n => (n, after)

/-- An exclamation mark, and perhaps a name with another one after it. -/
def readHandle (inDirective : Bool) : Reader (List Char) := fun c =>
  if !c.at? '!' then none
  else
    let (name, after) := (c.skip 1).takeWhile isWordChar
    if after.at? '!' then some ('!' :: name ++ ['!'], after.skip 1)
    else if inDirective && !name.isEmpty then none
    else some ('!' :: name, after)

/-- A character of a tag; between angle brackets and in directives there are a few more. -/
def isTagChar (wide : Bool) (c : Char) : Bool :=
  isWordChar c || ";/?:@&=+$.%!~*'()".toList.contains c || (wide && [',', '[', ']'].contains c)

/-- The octet that a percent sign and two digits stand for. -/
def readOctet? : List Char → Option (Nat × List Char)
  | '%' :: a :: b :: rest => (Digits.read? 16 [a, b]).map fun octet => (octet, rest)
  | _ => none

/-- How many octets the encoding of a character has, by its first one, and the bits of that one. -/
def encodingStart? (octet : Nat) : Option (Nat × Nat) :=
  if octet < 0x80 then some (1, octet)
  else if octet / 0x20 == 6 then some (2, octet % 0x20)
  else if octet / 0x10 == 14 then some (3, octet % 0x10)
  else if octet / 0x08 == 30 then some (4, octet % 0x08)
  else none

def readContinuation? : Nat → Nat → List Char → Option (Nat × List Char)
  | 0, code, text => some (code, text)
  | more + 1, code, text =>
    match readOctet? text with
    | some (octet, rest) =>
      if octet / 0x40 == 2 then readContinuation? more (code * 0x40 + octet % 0x40) rest else none
    | none => none

def readEscaped? (text : List Char) : Option (Char × List Char) :=
  match readOctet? text with
  | none => none
  | some (first, rest) =>
    match encodingStart? first with
    | none => none
    | some (width, bits) =>
      (readContinuation? (width - 1) bits rest).map fun (code, rest) => (.ofNat code, rest)

/-- The characters of a tag, with those written in octets put in; as many rounds as characters. -/
def decodeTag : Nat → List Char → Option (List Char)
  | _, [] => some []
  | 0, _ => none
  | rounds + 1, c :: rest =>
    if c == '%' then
      match readEscaped? (c :: rest) with
      | some (d, rest) => (decodeTag rounds rest).map (d :: ·)
      | none => none
    else (decodeTag rounds rest).map (c :: ·)

def readTagText (wide : Bool) : Reader (List Char) := fun c =>
  let (text, after) := c.takeWhile (isTagChar wide)
  (decodeTag text.length text).map fun text => (text, after)

/-- A tag in full between angle brackets. -/
def readVerbatimTag : Reader Token := fun c => do
  let (text, after) ← readTagText true (c.skip 2)
  if text.isEmpty || !after.at? '>' then none else some (.tag [] text, after.skip 1)

/-- A tag made of a handle and what follows it. -/
def readShortTag : Reader Token := fun c => do
  let (handle, after) ← readHandle false c
  if handle.length > 1 && handle.getLast? == some '!' then
    let (suffix, after) ← readTagText false after
    if suffix.isEmpty then none else some (.tag handle suffix, after)
  else
    let (more, after) ← readTagText false after
    match handle.drop 1 ++ more with
    | [] => some (.tag [] ['!'], after)
    | suffix => some (.tag ['!'] suffix, after)

/-- A tag; white space follows it, or a comma in a flow collection. -/
def readTag (inFlow : Bool) : Reader Token := fun c => do
  let (token, after) ← if c.peek? 1 == some '<' then readVerbatimTag c else readShortTag c
  if after.spaceOrEnd 0 || (inFlow && after.at? ',') then some (token, after) else none

def readVersion : Reader Token := fun c => do
  let (major, after) ← readVersionNumber (c.skipWhile isBlank)
  if !after.at? '.' then none
  else
    let (minor, after) ← readVersionNumber (after.skip 1)
    some (.versionDirective major minor, after)

/-- A handle and the text that it stands for. -/
def readTagDirective : Reader Token := fun c => do
  let (handle, after) ← readHandle true (c.skipWhile isBlank)
  if !after.atBlank then none
  else
    let (tagPrefix, after) ← readTagText true (after.skipWhile isBlank)
    if tagPrefix.isEmpty || !after.spaceOrEnd 0 then none
    else some (.tagDirective handle tagPrefix, after)

/-- The rest of a line that may hold blanks and a comment only; the break after it is passed. -/
def readLineEnd (c : Cursor) : Option Cursor :=
  let c := c.skipWhile isBlank
  let c := if c.at? '#' then c.skipWhile (!isBreak ·) else c
  if c.breakOrEnd then some c.nextLine.2 else none

def readDirective : Reader Token := fun c => do
  let (name, after) := (c.skip 1).takeWhile isWordChar
  if name.isEmpty || !after.spaceOrEnd 0 then none
  else
    let (token, after) ←
      if name == "YAML".toList then readVersion after
      else if name == "TAG".toList then readTagDirective after
      else none
    (readLineEnd after).map fun after => (token, after)

end EventRules.Yaml
