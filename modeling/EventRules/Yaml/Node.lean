import EventRules.Yaml.TokenStream

/-!
# YAML nodes

The nodes of a document as its tokens lay them out: anchors and aliases are still in place, and
scalars are text. A key or a value that is left out is an empty plain scalar.
-/

namespace EventRules.Yaml

/-- The anchor and the tag before a node. -/
structure Properties where
  anchor : Option (List Char)
  tag : Option (List Char)
  deriving DecidableEq, Repr

inductive Node where
  | alias (name : List Char)
  | scalar (properties : Properties) (text : List Char) (style : ScalarStyle)
  | sequence (properties : Properties) (items : List Node)
  | mapping (properties : Properties) (entries : List (Node × Node))
  deriving Repr

namespace Node

def bare : Properties := ⟨none, none⟩

/-- What stands for a node that is left out. -/
def empty : Node := .scalar bare [] .plain

/-- A parser takes what it accepts off the front of the tokens. -/
abbrev Parser (α : Type) := List Token → Option (α × List Token)

/-- What the handles of tags stand for. -/
abbrev TagPrefixes := List (List Char × List Char)

/-- The handles that every document has, unless it declares them itself. -/
def standardPrefixes : TagPrefixes :=
  [(['!'], ['!']), (['!', '!'], "tag:yaml.org,2002:".toList)]

def resolveTag? (prefixes : TagPrefixes) (handle suffix : List Char) : Option (List Char) :=
  if handle.isEmpty then some suffix else (prefixes.lookup handle).map (· ++ suffix)

/-- The properties off the front: an anchor and a tag, in any order. -/
def properties (prefixes : TagPrefixes) : Parser Properties
  | .anchor name :: .tag handle suffix :: rest =>
    (resolveTag? prefixes handle suffix).map fun tag => (⟨some name, some tag⟩, rest)
  | .tag handle suffix :: .anchor name :: rest =>
    (resolveTag? prefixes handle suffix).map fun tag => (⟨some name, some tag⟩, rest)
  | .anchor name :: rest => some (⟨some name, none⟩, rest)
  | .tag handle suffix :: rest =>
    (resolveTag? prefixes handle suffix).map fun tag => (⟨none, some tag⟩, rest)
  | tokens => some (bare, tokens)

/-- Whether a node is left out before the next token. -/
def omittedBefore (ends : List Token) (tokens : List Token) : Bool :=
  match tokens with
  | [] => true
  | token :: _ => ends.contains token

/-- A node, unless it is left out before one of the tokens `ends`. -/
def orEmpty (node : Parser Node) (ends : List Token) : Parser Node := fun tokens =>
  if omittedBefore ends tokens then some (empty, tokens) else node tokens

def valueOf (node : Parser Node) (ends : List Token) : Parser Node
  | .value :: rest => orEmpty node ends rest
  | tokens => some (empty, tokens)

/-- The entries of a block sequence; each step passes one. -/
def blockItems (node : Parser Node) : Nat → Parser (List Node)
  | 0, _ => none
  | steps + 1, .blockEntry :: rest => do
    let (item, rest) ← orEmpty node [.blockEntry, .blockEnd] rest
    let (items, rest) ← blockItems node steps rest
    some (item :: items, rest)
  | _, .blockEnd :: rest => some ([], rest)
  | _, _ => none

/-- The entries of a sequence that is not indented further than the mapping around it. -/
def indentlessItems (node : Parser Node) : Nat → Parser (List Node)
  | 0, _ => none
  | steps + 1, .blockEntry :: rest => do
    let (item, rest) ← orEmpty node [.blockEntry, .key, .value, .blockEnd] rest
    let (items, rest) ← indentlessItems node steps rest
    some (item :: items, rest)
  | _, tokens => some ([], tokens)

def blockEntries (node : Parser Node) : Nat → Parser (List (Node × Node))
  | 0, _ => none
  | steps + 1, .key :: rest => do
    let (key, rest) ← orEmpty node [.key, .value, .blockEnd] rest
    let (value, rest) ← valueOf node [.key, .value, .blockEnd] rest
    let (entries, rest) ← blockEntries node steps rest
    some ((key, value) :: entries, rest)
  | _, .blockEnd :: rest => some ([], rest)
  | _, _ => none

/-- A mapping of one entry inside a flow sequence, after the token of its key. A token that takes
the place of the key is passed over. -/
def singlePair (node : Parser Node) : Parser Node := fun tokens => do
  let ends := [.flowEntry, .flowSequenceEnd]
  let (key, rest) ←
    if omittedBefore (.value :: ends) tokens then some (empty, tokens.drop 1) else node tokens
  let (value, rest) ← valueOf node ends rest
  some (.mapping bare [(key, value)], rest)

/-- Whether the next entry of a flow collection starts here: right away for the first one, after a
comma for the others. -/
def nextEntry? (first : Bool) : List Token → Option (List Token)
  | .flowEntry :: rest => if first then some (.flowEntry :: rest) else some rest
  | tokens => if first then some tokens else none

/-- The entries of a flow sequence. -/
def flowItems (node : Parser Node) : Nat → (first : Bool) → Parser (List Node)
  | 0, _, _ => none
  | _, _, .flowSequenceEnd :: rest => some ([], rest)
  | steps + 1, first, tokens => do
    match ← nextEntry? first tokens with
    | .flowSequenceEnd :: rest => some ([], rest)
    | .key :: rest =>
      let (item, rest) ← singlePair node rest
      let (items, rest) ← flowItems node steps false rest
      some (item :: items, rest)
    | tokens =>
      let (item, rest) ← node tokens
      let (items, rest) ← flowItems node steps false rest
      some (item :: items, rest)

/-- The entries of a flow mapping; a node without the token of a key has an empty value. -/
def flowEntries (node : Parser Node) : Nat → (first : Bool) → Parser (List (Node × Node))
  | 0, _, _ => none
  | _, _, .flowMappingEnd :: rest => some ([], rest)
  | steps + 1, first, tokens => do
    match ← nextEntry? first tokens with
    | .flowMappingEnd :: rest => some ([], rest)
    | .key :: rest =>
      let ends := [.flowEntry, .flowMappingEnd]
      let (key, rest) ← orEmpty node (.value :: ends) rest
      let (value, rest) ← valueOf node ends rest
      let (entries, rest) ← flowEntries node steps false rest
      some ((key, value) :: entries, rest)
    | tokens =>
      let (key, rest) ← node tokens
      let (entries, rest) ← flowEntries node steps false rest
      some ((key, empty) :: entries, rest)

/-- Where a node stands: in a flow collection, in a block, or as an entry of a block mapping, where
a sequence need not be indented. -/
inductive Position where
  | flow
  | block
  | mappingEntry
  deriving DecidableEq

/-- What a node is made of, after its properties. A tag that is a mere exclamation mark does not
count on a scalar. -/
def content (inner : Position → Parser Node) (p : Properties) (position : Position) :
    Parser Node := fun tokens =>
  let steps := tokens.length + 1
  match tokens with
  | .scalar text style :: rest =>
    some (.scalar { p with tag := p.tag.filter (· != ['!']) } text style, rest)
  | .flowSequenceStart :: rest =>
    (flowItems (inner .flow) steps true rest).map fun (items, rest) => (.sequence p items, rest)
  | .flowMappingStart :: rest =>
    (flowEntries (inner .flow) steps true rest).map fun (entries, rest) => (.mapping p entries, rest)
  | .blockEntry :: _ =>
    if position = .mappingEntry then
      (indentlessItems (inner .block) steps tokens).map fun (items, rest) => (.sequence p items, rest)
    else if p = bare then none
    else some (.scalar p [] .plain, tokens)
  | .blockSequenceStart :: rest =>
    if position = .flow then if p = bare then none else some (.scalar p [] .plain, tokens)
    else (blockItems (inner .block) steps rest).map fun (items, rest) => (.sequence p items, rest)
  | .blockMappingStart :: rest =>
    if position = .flow then if p = bare then none else some (.scalar p [] .plain, tokens)
    else (blockEntries (inner .mappingEntry) steps rest).map fun (entries, rest) =>
      (.mapping p entries, rest)
  | _ => if p = bare then none else some (.scalar p [] .plain, tokens)

/-- A node whose collections lie at most as deep inside one another as there are rounds. -/
def parse (prefixes : TagPrefixes) : Nat → Position → Parser Node
  | _, _, .alias name :: rest => some (.alias name, rest)
  | 0, _, _ => none
  | rounds + 1, position, tokens => do
    let (p, rest) ← properties prefixes tokens
    content (parse prefixes rounds) p position rest

/-- The directives before a document: at most one version, which has to be 1.1 or 1.2, and the
handles, each declared once. -/
def directives (versioned : Bool) (prefixes : TagPrefixes) : Parser TagPrefixes
  | .versionDirective major minor :: rest =>
    if versioned || major != 1 || (minor != 1 && minor != 2) then none
    else directives true prefixes rest
  | .tagDirective handle tagPrefix :: rest =>
    if (prefixes.lookup handle).isSome then none
    else directives versioned (prefixes ++ [(handle, tagPrefix)]) rest
  | tokens => some (prefixes ++ standardPrefixes, tokens)

/-- Whether a document ends here. -/
def atDocumentEnd : List Token → Bool
  | [] => true
  | .documentStart :: _ | .documentEnd :: _ => true
  | .versionDirective .. :: _ | .tagDirective .. :: _ => true
  | _ => false

/-- The root of a document after its directives and its start. -/
def root (prefixes : TagPrefixes) : Parser Node := fun tokens =>
  parse prefixes (tokens.length + 1) .block tokens

/-- The first document. Its start may be left out if it has no directives. -/
def firstDocument (tokens : List Token) : Option (Node × List Token) :=
  match tokens with
  | .documentStart :: _ | .versionDirective .. :: _ | .tagDirective .. :: _ =>
    match directives false [] tokens with
    | some (prefixes, .documentStart :: rest) =>
      if atDocumentEnd rest then some (empty, rest) else root prefixes rest
    | _ => none
  | _ => root standardPrefixes tokens

/-- The root of the only document of a text; nothing, if the text has no document. -/
def read? (text : List Char) : Option (Option Node) :=
  match tokens? text with
  | none => none
  | some [] => some none
  | some tokens =>
    match firstDocument tokens with
    | some (node, rest) => if rest.all (· = .documentEnd) then some (some node) else none
    | none => none

end Node

end EventRules.Yaml
