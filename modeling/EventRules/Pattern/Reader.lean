import EventRules.Pattern.Bracket
import EventRules.Pattern.Choice
import EventRules.Pattern.Group
import EventRules.Pattern.Repetition

/-!
# Reading patterns

The reader goes through a pattern once. It keeps the flags in force and a stack of the groups that
are open; in each of these it holds the alternatives so far and the pieces of the current one.

The depth of a piece counts the groups, repetitions, choices, sequences and brackets around its
innermost sign. A pattern may be 250 deep.
-/

namespace EventRules.Pattern

/-- A part of a pattern that has been read. -/
structure Piece where
  expr : Expr CodeSet Edge
  depth : Nat
  /-- Whether a count may follow it; flags are not repeated. -/
  repeatable : Bool

/-- The pieces put together as one; a piece alone is itself. -/
def Piece.combine (wrap : List (Expr CodeSet Edge) → Expr CodeSet Edge) : List Piece → Piece
  | [] => ⟨wrap [], 0, true⟩
  | [piece] => piece
  | pieces => ⟨wrap (pieces.map (·.expr)), (pieces.map (·.depth)).foldl max 0 + 1, true⟩

/-- The content of a group so far. Lists are in reverse order. -/
structure Branches where
  complete : List Piece
  current : List Piece

namespace Branches

def empty : Branches := ⟨[], []⟩

def push (b : Branches) (piece : Piece) : Branches :=
  { b with current := piece :: b.current }

def next (b : Branches) : Branches :=
  ⟨.combine .sequence b.current.reverse :: b.complete, []⟩

def close (b : Branches) : Piece :=
  .combine .choice b.next.complete.reverse

/-- Repeats the last piece, if there is one that can be. -/
def repeat? (b : Branches) (count : Count) (greedy : Bool) : Option Branches :=
  match b.current with
  | piece :: rest =>
    if piece.repeatable then
      some { b with current :=
        ⟨piece.expr.repeated count.least count.most greedy, piece.depth + 1, true⟩ :: rest }
    else none
  | [] => none

end Branches

/-- A group that is open. -/
structure OpenGroup where
  /-- The flags around the group. -/
  flags : Flags
  captures : Bool
  /-- The content of the group around it. -/
  around : Branches

structure Reader where
  flags : Flags
  /-- The names of groups so far. -/
  names : List (List Char)
  outer : List OpenGroup
  branches : Branches

namespace Reader

def start : Reader := ⟨{}, [], [], .empty⟩

def push (r : Reader) (piece : Piece) : Reader :=
  { r with branches := r.branches.push piece }

def openGroup (r : Reader) (captures : Bool) (flags : Flags) : Reader :=
  { r with flags, outer := ⟨r.flags, captures, r.branches⟩ :: r.outer, branches := .empty }

/-- The head of a group has been read. A name may be given once only. -/
def head? (r : Reader) : GroupHead → Option Reader
  | .capture none => some (r.openGroup true r.flags)
  | .capture (some name) =>
    if r.names.contains name then none
    else some { r.openGroup true r.flags with names := name :: r.names }
  | .plain changes => some (r.openGroup false (r.flags.change changes))
  | .directive changes =>
    some { r.push ⟨.blank, 0, false⟩ with flags := r.flags.change changes }

/-- The innermost group ends. -/
def closeGroup? (r : Reader) : Option Reader :=
  match r.outer with
  | [] => none
  | group :: outer =>
    let content := r.branches.close
    let expr := if group.captures then .group content.expr else content.expr
    some { r with
      flags := group.flags, outer, branches := group.around.push ⟨expr, content.depth + 1, true⟩ }

def atom? (r : Reader) (atom : Atom) : Option Reader :=
  (atom.expr? r.flags).map fun expr => r.push ⟨expr, 0, true⟩

/-- Reads what is in front of a text without blanks, and gives the text after it. -/
def step? (r : Reader) : List Char → Option (Reader × List Char)
  | [] => none
  | '(' :: rest => do
    let (head, rest) ← readHead? r.flags.spaced rest
    return (← r.head? head, rest)
  | ')' :: rest => do return (← r.closeGroup?, rest)
  | '|' :: rest => some ({ r with branches := r.branches.next }, rest)
  | '[' :: rest => do
    let (set, rest) ← readSet? r.flags rest
    return (r.push ⟨.one set.chars, set.depth, true⟩, rest)
  | '\\' :: rest => do
    let (atom, rest) ← readEscape? r.flags.spaced rest
    return (← r.atom? atom, rest)
  | c :: rest =>
    match readCount r.flags.spaced (c :: rest) with
    | some count => do
      let (count, rest) ← count
      return ({ r with branches := ← r.branches.repeat? count (count.lazy == r.flags.swapGreed) }, rest)
    | none => do
      let atom := match c with
        | '.' => .dot
        | '^' => .caret
        | '$' => .dollar
        | _ => .char c
      return (← r.atom? atom, rest)

/-- Reads on to the end. Each step takes a character, so `fuel` is the length of the text. -/
def run? (r : Reader) : Nat → List Char → Option Reader
  | 0, _ => none
  | fuel + 1, text =>
    match skip r.flags.spaced text with
    | [] => some r
    | text =>
      match r.step? text with
      | some (r, rest) => r.run? fuel rest
      | none => none

/-- What the whole pattern says, if no group is open. -/
def finish? (r : Reader) : Option Piece :=
  if r.outer.isEmpty then some r.branches.close else none

end Reader

/-- The greatest depth of a pattern. -/
def greatestDepth : Nat := 250

def readPiece? (text : List Char) : Option Piece :=
  (Reader.start.run? (text.length + 1) text).bind Reader.finish?

end EventRules.Pattern
