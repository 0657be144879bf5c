import EventRules.Evaluate
import EventRules.Import

/-!
# Sessions

A session holds a parser, a store and the lists that were kept under a name. Its steps replace
rules, import documents and evaluate events; a step that fails changes nothing.
-/

namespace EventRules

structure Session where
  parser : RuleParser
  store : Store
  /-- Lists of stateless rules kept by name, latest first. -/
  snapshots : List (String × List StatelessRule)

namespace Session

/-- A session over a store without rules. -/
def start (parser : RuleParser) : Session :=
  ⟨parser, .empty, []⟩

/-- A rule for the store: a document to be compiled, or a rule that is compiled already. -/
inductive Source where
  | document (data : RuleData)
  | rule (rule : StatelessRule)

inductive Step where
  | useParser (parser : RuleParser)
  | update (rules : List Source)
  | updateStateful (rules : List StatefulRule)
  /-- Replaces both lists. -/
  | publish (rules : List Source) (stateful : List StatefulRule)
  /-- Imports documents and, if asked to, publishes the report. -/
  | importAll (data : List RuleData) (policy : ImportPolicy) (publishes : Bool)
  | evaluate (data : List Datum)
  | tryStateful (datum : Datum)
  /-- Keeps the list of stateless rules under a name. -/
  | keep (name : String)
  /-- Shows a list that was kept. -/
  | describe (name : String)
  /-- Puts a list that was kept into the store. -/
  | restore (name : String)

inductive Answer where
  | done
  | failed (error : RuleError)
  | published (rules : ParsedRules)
  | imported (report : ImportReport)
  /-- How an evaluation ended, and the labelled predicates that it called. -/
  | evaluated (calls : List String) (outcome : Except CastError (List Match))
  | tried (trials : List (String × Trial))
  | described (rules : List StatelessRule)
  | unknownName (name : String)

variable [PatternEngine]

/-- The stateless rules of some sources, in order; the first that fails ends it. -/
def compile (parser : RuleParser) : List Source → Run RuleError (List StatelessRule)
  | [] => return []
  | .rule rule :: rest => return rule :: (← compile parser rest)
  | .document data :: rest => do
    let parsed ← parser.parse data
    return parsed.stateless ++ (← compile parser rest)

/-- A run without errors: what it ends with, and the session after it. -/
abbrev Effect := Run Empty (Answer × Session)

/-- Compiles sources and goes on with their rules; if one fails, the session stays as it is. -/
def withRules (s : Session) (sources : List Source) (use : List StatelessRule → Effect) :
    Effect := do
  match ← (compile s.parser sources).attempt with
  | .ok rules => use rules
  | .error error => return (.failed error, s)

/-- Goes on with a list that was kept. -/
def withSnapshot (s : Session) (name : String) (use : List StatelessRule → Effect) : Effect :=
  match s.snapshots.lookup name with
  | some rules => use rules
  | none => return (.unknownName name, s)

def updateWith (s : Session) (rules : List StatelessRule) : Effect := do
  return (.done, { s with store := ← s.store.updateStateless rules })

def publishRules (s : Session) (rules : ParsedRules) (answer : Answer) : Effect := do
  return (answer, { s with store := ← s.store.publish rules })

def importWith (s : Session) (data : List RuleData) (policy : ImportPolicy) (publishes : Bool) :
    Effect := do
  match ← (Import.documents s.parser policy data).attempt with
  | .error error => return (.failed error, s)
  | .ok report =>
    if publishes then s.publishRules report.rules (.imported report)
    else return (.imported report, s)

def step (s : Session) : Step → Effect
  | .useParser parser => return (.done, { s with parser := parser })
  | .update rules => s.withRules rules s.updateWith
  | .updateStateful rules => do
    return (.done, { s with store := ← s.store.updateStateful rules })
  | .publish rules stateful => s.withRules rules fun stateless =>
    s.publishRules ⟨stateless, stateful⟩ (.published ⟨stateless, stateful⟩)
  | .importAll data policy publishes => s.importWith data policy publishes
  | .evaluate data => do
    let r := Evaluate.batch s.store.stateless data
    let outcome ← r.attempt
    return (.evaluated r.calls outcome, s)
  | .tryStateful datum =>
    return (.tried (s.store.stateful.map fun rule => (rule.id, rule.tryOn datum)), s)
  | .keep name => return (.done, { s with snapshots := (name, s.store.stateless) :: s.snapshots })
  | .describe name => s.withSnapshot name fun rules => return (.described rules, s)
  | .restore name => s.withSnapshot name s.updateWith

/-- The answers to some steps, each with the store after it. -/
def run (s : Session) : List Step → Run Empty (List (Answer × Store))
  | [] => return []
  | first :: rest => do
    let (answer, s) ← s.step first
    return (answer, s.store) :: (← run s rest)

end Session

end EventRules
