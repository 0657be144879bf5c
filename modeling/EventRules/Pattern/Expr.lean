import EventRules.Pattern.Edge
import EventRules.Pattern.Positions

/-!
# Pattern expressions

`Expr` is what a pattern says once its signs are resolved: sets of characters and edges, put
together by sequence, choice and repetition. `Expr.reach` takes a whole set of positions through
an expression at once, so the time does not depend on how many ways there are to match.
-/

namespace EventRules.Pattern

/-- An expression; `α` is what stands for a character that is read, `β` for an edge. -/
inductive Expr (α β : Type) where
  | blank
  | one (chars : α)
  | edge (edge : β)
  | seq (first second : Expr α β)
  | or (left right : Expr α β)
  /-- At least `least` times, and at most `most` times if that is given. A greedy repetition prefers
  to go on, which does not change what it matches. -/
  | many (sub : Expr α β) (least : Nat) (most : Option Nat) (greedy : Bool)
  | group (sub : Expr α β)
  deriving Repr

namespace Expr

variable {α β : Type}

/-- The expression with other leaves. -/
def map {γ δ : Type} (f : α → γ) (g : β → δ) : Expr α β → Expr γ δ
  | blank => blank
  | one chars => one (f chars)
  | edge e => edge (g e)
  | seq a b => seq (a.map f g) (b.map f g)
  | or a b => or (a.map f g) (b.map f g)
  | many e least most greedy => many (e.map f g) least most greedy
  | group e => group (e.map f g)

/-- Whether the expression reads no character. -/
def readsNothing : Expr α β → Bool
  | blank => true
  | one _ => false
  | edge _ => true
  | seq a b => a.readsNothing && b.readsNothing
  | or a b => a.readsNothing && b.readsNothing
  | many e _ _ _ => e.readsNothing
  | group e => e.readsNothing

/-- A repetition. What reads nothing is not repeated; none at all is blank, and once is the
expression itself. -/
def repeated (e : Expr α β) (least : Nat) (most : Option Nat) (greedy : Bool) : Expr α β :=
  let (least, most) := if e.readsNothing then (min least 1, some ((most.getD 1).min 1))
    else (least, most)
  if most = some 0 then blank
  else if least = 1 ∧ most = some 1 then e
  else many e least most greedy

/-- What follows one another in an expression. -/
def parts : Expr α β → List (Expr α β)
  | blank => []
  | seq a b => a.parts ++ b.parts
  | e => [e]

/-- The first of some parts and those after it. -/
def chain (e : Expr α β) : List (Expr α β) → Expr α β
  | [] => e
  | f :: rest => seq e (chain f rest)

/-- One after the other. -/
def sequence (es : List (Expr α β)) : Expr α β :=
  match es.flatMap parts with
  | [] => blank
  | e :: rest => chain e rest

/-- The positions that the expression leads to from some positions. Its leaves are the positions
where a character can be read and those where an edge is; `count` is the number of positions. -/
def reach (count : Nat) : Expr Positions Positions → Positions → Positions
  | blank, s => s
  | one places, s => (s &&& places) <<< 1
  | edge places, s => s &&& places
  | seq a b, s => reach count b (reach count a s)
  | or a b, s => reach count a s ||| reach count b s
  | many e least most _, s =>
    Positions.spread (reach count e) (match most with | none => count | some n => n - least)
      (Positions.steps (reach count e) least s)
  | group e, s => reach count e s

/-- The expression laid on a text. -/
def onText (text : List Char) (e : Expr CodeSet Edge) : Expr Positions Positions :=
  e.map (fun chars => Positions.sift (fun _ after => after.any chars.contains) none text)
    (fun edge => Positions.sift (fun before after => edge.holds before after) none text)

/-- Whether some part of the text is as the expression says. -/
def isIn (e : Expr CodeSet Edge) (text : List Char) : Bool :=
  (e.onText text).reach (text.length + 1) (Positions.all text.length) != 0

end Expr

end EventRules.Pattern
