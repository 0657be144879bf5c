import EventRules.Pattern.Expr

/-!
# Choices

A choice among expressions is put together as simply as its alternatives allow: choices among them are
part of it, sets of characters are one set, and what all alternatives start with stands in front of the
choice. So the size of a pattern does not grow with what its alternatives share.
-/

namespace EventRules.Pattern.Expr

variable {α β : Type}

/-- The alternatives of an expression. -/
def alternatives : Expr α β → List (Expr α β)
  | or a b => a.alternatives ++ b.alternatives
  | e => [e]

def chars? : Expr α β → Option α
  | one chars => some chars
  | _ => none

/-- The first of some alternatives and those after it. -/
def anyOf (e : Expr α β) : List (Expr α β) → Expr α β
  | [] => e
  | f :: rest => or e (anyOf f rest)

/-- Some alternatives. Those of one character each are one set. -/
def united : List (Expr CodeSet β) → Expr CodeSet β
  | [] => one .empty
  | e :: rest =>
    match (e :: rest).mapM chars? with
    | some sets => one (.ofRanges (sets.flatMap CodeSet.ranges))
    | none => anyOf e rest

variable [DecidableEq β]

/-- Whether two expressions say the same. Groups keep different matches, and never do. -/
def same : Expr CodeSet β → Expr CodeSet β → Bool
  | blank, blank => true
  | one s, one t => s = t
  | edge e, edge f => e = f
  | seq a b, seq c d => a.same c && b.same d
  | or a b, or c d => a.same c && b.same d
  | many e least most greedy, many f least' most' greedy' =>
    least = least' && most = most' && greedy = greedy' && e.same f
  | _, _ => false

/-- The expression is a single character. -/
def isLiteral : Expr CodeSet β → Bool
  | one chars => chars.size = 1
  | _ => false

/-- The parts of an expression, characters that follow one another taken together. -/
def runs (e : Expr CodeSet β) : List (List (Expr CodeSet β)) :=
  e.parts.splitBy fun a b => a.isLiteral && b.isLiteral

def sameRun (r s : List (Expr CodeSet β)) : Bool :=
  r.length = s.length && (r.zip s).all fun (a, b) => a.same b

/-- How many runs two lists start with in common. -/
def sharedRuns : List (List (Expr CodeSet β)) → List (List (Expr CodeSet β)) → Nat
  | r :: rs, s :: ss => if sameRun r s then sharedRuns rs ss + 1 else 0
  | _, _ => 0

/-- How many runs all alternatives start with. An alternative of one run is not taken apart. -/
def sharedFront : List (List (List (Expr CodeSet β))) → Nat
  | [] => 0
  | first :: others =>
    if (first :: others).all (2 ≤ ·.length) then
      others.foldr (fun runs n => min (sharedRuns first runs) n) first.length
    else 0

/-- Some alternatives, with what all of them start with in front. -/
def choice (es : List (Expr CodeSet β)) : Expr CodeSet β :=
  let branches := (es.flatMap alternatives).map runs
  let front := sharedFront branches
  let rests := branches.map fun runs => sequence (runs.drop front).flatten
  sequence (((branches.headD []).take front).flatten ++ [united (rests.flatMap alternatives)])

end EventRules.Pattern.Expr
