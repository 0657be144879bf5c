import EventRules.Json.Number
import EventRules.Json.Token

/-!
# The tree of a JSON text

`Tree` is the text as written: members are in the order of the text and may repeat a key, numbers
may be out of range and strings may denote no text. The tree is built token by token by
`Builder.step?`, with a stack of the arrays and objects that are still open.
-/

namespace EventRules.Json

inductive Tree where
  | null
  | bool (value : Bool)
  | number (text : NumberText)
  | string (text : Option String)
  | array (items : List Tree)
  | object (members : List (Option String × Tree))
  deriving Repr

/-- An open array or object, with what it holds so far in reverse order. -/
inductive Frame where
  | array (items : List Tree)
  | object (members : List (Option String × Tree))
  /-- An object with the key of the member that is being read. -/
  | member (members : List (Option String × Tree)) (key : Option String)

/-- What may come next. -/
inductive Expected where
  | value
  | itemOrClose
  | keyOrClose
  | key
  | colon
  /-- A comma or the end of the innermost frame. -/
  | separator
  deriving DecidableEq

/-- A text read up to some token: finished if no frame is open and a root is there. -/
structure Builder where
  frames : List Frame
  root : Option Tree
  expected : Expected

namespace Builder

def start : Builder := ⟨[], none, .value⟩

/-- Puts a finished value where it belongs. -/
def put (frames : List Frame) (t : Tree) : Option Builder :=
  match frames with
  | [] => some ⟨[], some t, .separator⟩
  | .array items :: frames => some ⟨.array (t :: items) :: frames, none, .separator⟩
  | .member members key :: frames => some ⟨.object ((key, t) :: members) :: frames, none, .separator⟩
  | .object _ :: _ => none

def textOf (pieces : List Piece) : Option String :=
  (Piece.decode? pieces).map String.ofList

/-- A token where a value starts. -/
def value? (frames : List Frame) : Token → Option Builder
  | .openArray => some ⟨.array [] :: frames, none, .itemOrClose⟩
  | .openObject => some ⟨.object [] :: frames, none, .keyOrClose⟩
  | .word ['n', 'u', 'l', 'l'] => put frames .null
  | .word ['t', 'r', 'u', 'e'] => put frames (.bool true)
  | .word ['f', 'a', 'l', 's', 'e'] => put frames (.bool false)
  | .number text => (NumberText.read? text).bind fun n => put frames (.number n)
  | .string pieces => put frames (.string (textOf pieces))
  | _ => none

/-- A token where a key starts. -/
def key? (frames : List Frame) : Token → Option Builder
  | .string pieces =>
    match frames with
    | .object members :: frames => some ⟨.member members (textOf pieces) :: frames, none, .colon⟩
    | _ => none
  | _ => none

/-- The end of the innermost frame. -/
def close? (frames : List Frame) : Token → Option Builder
  | .closeArray =>
    match frames with
    | .array items :: frames => put frames (.array items.reverse)
    | _ => none
  | .closeObject =>
    match frames with
    | .object members :: frames => put frames (.object members.reverse)
    | _ => none
  | _ => none

/-- What a comma leads to in the innermost frame. -/
def next? (frames : List Frame) : Option Builder :=
  match frames with
  | .array _ :: _ => some ⟨frames, none, .value⟩
  | .object _ :: _ => some ⟨frames, none, .key⟩
  | _ => none

def step? (b : Builder) (token : Token) : Option Builder :=
  match b.expected with
  | .value => value? b.frames token
  | .itemOrClose => if token = .closeArray then close? b.frames token else value? b.frames token
  | .keyOrClose => if token = .closeObject then close? b.frames token else key? b.frames token
  | .key => key? b.frames token
  | .colon => if token = .colon then some ⟨b.frames, none, .value⟩ else none
  | .separator => if token = .comma then next? b.frames else close? b.frames token

end Builder

namespace Tree

def read? (text : String) : Option Tree :=
  match (tokens? text.toList).bind fun tokens => tokens.foldlM Builder.step? .start with
  | some b => if b.frames.isEmpty then b.root else none
  | none => none

end Tree

end EventRules.Json
