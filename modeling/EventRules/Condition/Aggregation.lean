import EventRules.Number
import EventRules.Text.Trim

/-!
# Aggregation clauses

What may follow a bar in a condition: a function with a field in parentheses, a grouping, a
comparison and a threshold, as in `count(user) by host > 5`.
-/

namespace EventRules.Condition

structure Aggregation where
  function : String
  field : Option String
  groupBy : Option String
  op : String
  threshold : Number
  deriving DecidableEq, Repr

inductive ClauseFault where
  | missingOpen
  | missingClose
  | unbalanced
  | missingFunction
  | missingOperator
  | missingGroup
  | unknownOperator
  | missingThreshold
  deriving DecidableEq, Repr

def ClauseFault.message : ClauseFault → String
  | missingOpen => "Expected '('"
  | missingClose => "Expected ')'"
  | unbalanced => "Unbalanced parentheses"
  | missingFunction => "Expected aggregation function"
  | missingOperator => "Expected comparison operator"
  | missingGroup => "Expected 'by <field>'"
  | unknownOperator => "Unknown comparison operator"
  | missingThreshold => "Expected numeric threshold"

namespace Aggregation

def isOperatorChar (c : Char) : Bool :=
  c == '<' || c == '>' || c == '='

def operators : List String := ["<", "<=", ">", ">=", "==", "="]

/-- The text without blanks around it, unless nothing is left. -/
def nonBlank? (text : List Char) : Option String :=
  let trimmed := Text.trim text
  if trimmed.isEmpty then none else some (.ofList trimmed)

/-- The function, the argument between its parentheses and what follows them. -/
def splitCall (clause : List Char) :
    Except ClauseFault (List Char × List Char × List Char) :=
  match Text.cut? '(' clause, Text.cut? ')' clause with
  | none, _ => .error .missingOpen
  | some _, none => .error .missingClose
  | some _, some (head, rest) =>
    match Text.cut? '(' head with
    | none => .error .unbalanced
    | some (function, argument) => .ok (function, argument, rest)

def readFunction (text : List Char) : Except ClauseFault String :=
  let name := Text.trim text
  if name.isEmpty || !name.all Char.isAlpha then .error .missingFunction else .ok (.ofList name)

/-- The grouping before the comparison: nothing, or `by` and a field. -/
def readGroup (text : List Char) : Except ClauseFault (Option String) :=
  match Text.trim text with
  | [] => .ok none
  | 'b' :: 'y' :: ' ' :: group =>
    match nonBlank? group with
    | some group => .ok (some group)
    | none => .error .missingGroup
  | _ => .error .missingGroup

/-- The aggregation of a clause without blanks around it. -/
def readTrimmed (clause : List Char) : Except ClauseFault Aggregation := do
  let (function, argument, rest) ← splitCall clause
  let function ← readFunction function
  let rest := Text.trim rest
  let grouping := rest.takeWhile (!isOperatorChar ·)
  let comparison := rest.dropWhile (!isOperatorChar ·)
  if comparison.isEmpty then .error .missingOperator
  else
    let groupBy ← readGroup grouping
    let op := String.ofList (comparison.takeWhile isOperatorChar)
    if !operators.contains op then .error .unknownOperator
    else
      match Number.read? (Text.trim (comparison.dropWhile isOperatorChar)) with
      | none => .error .missingThreshold
      | some threshold => .ok ⟨function, nonBlank? argument, groupBy, op, threshold⟩

def read (clause : String) : Except ClauseFault Aggregation :=
  readTrimmed (Text.trim clause.toList)

end Aggregation

end EventRules.Condition
